/-
# GeoFeed.Proofs.Xml.Cdata -- sections end where they should

A section of a text holds no `]]>` of its own, so a reader that ends each section
at the first `]]>` finds the sections that were written (`endFree_of_mem_sections`).

The text is parted as it is passed over, and what has been passed over stays the
front of the next section.  The invariant of this (`Settled`) is that no `]]>`
begins inside that front, also none that goes on into the text ahead.
-/
import GeoFeed.Proofs.Xml.Token

namespace GeoFeed.Xml

set_option autoImplicit false

/-- No `]]>` begins in what has been passed over. -/
def Settled (seen ahead : List Char) : Prop :=
  ∀ k < seen.length, ¬ [']', ']', '>'] <+: (seen.reverse ++ ahead).drop k

theorem settled_nil (text : List Char) : Settled [] text := by
  intro k inside
  simp at inside

theorem Settled.step {c : Char} {seen ahead : List Char} (settled : Settled seen (c :: ahead))
    (free : ¬ [']', ']', '>'] <+: c :: ahead) : Settled (c :: seen) ahead := by
  intro k inside
  have same : (c :: seen).reverse ++ ahead = seen.reverse ++ c :: ahead := by simp
  rw [same]
  rcases Nat.lt_succ_iff_lt_or_eq.1 inside with before | rfl
  · exact settled k before
  · rw [List.drop_append_of_le_length (by simp), List.drop_eq_nil_of_le (by simp)]
    exact free

/-- A front of what was passed over, and of two characters more at most, is free of
the mark. -/
theorem Settled.endFree {seen ahead part : List Char} (settled : Settled seen ahead)
    (front : part <+: seen.reverse ++ ahead) (short : part.length ≤ seen.length + 2) :
    EndFree part := by
  rintro ⟨left, right, rfl⟩
  obtain ⟨rest, whole⟩ := front
  have inside : left.length < seen.length := by
    simp only [List.length_append, List.length_cons, List.length_nil] at short
    omega
  apply settled left.length inside
  refine ⟨right ++ rest, ?_⟩
  rw [← whole]
  simp

theorem endFree_of_mem_sectionsFrom {seen text part : List Char} (settled : Settled seen text)
    (member : part ∈ cdataSectionsFrom seen text) : EndFree part := by
  fun_induction cdataSectionsFrom seen text with
  | case1 seen rest ih =>
      rcases List.mem_cons.1 member with rfl | member
      · refine settled.endFree ⟨'>' :: rest, ?_⟩ (by simp)
        simp
      · refine ih ?_ member
        intro k inside
        obtain rfl : k = 0 := by simpa using inside
        simp
  | case2 seen c rest open_ ih =>
      refine ih (settled.step ?_) member
      rintro ⟨after, same⟩
      obtain ⟨rfl, rfl⟩ := List.cons.inj same
      exact open_ after rfl rfl
  | case3 seen =>
      obtain rfl : part = seen.reverse := by simpa using member
      exact settled.endFree ⟨[], by simp⟩ (by simp)

/-- **No section of a text holds the end of a section.** -/
theorem endFree_of_mem_sections {text part : List Char} (member : part ∈ cdataSections text) :
    EndFree part :=
  endFree_of_mem_sectionsFrom (settled_nil text) member

end GeoFeed.Xml
