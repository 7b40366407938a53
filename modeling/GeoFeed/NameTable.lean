/-
# GeoFeed.NameTable -- values kept by name, in the order of the names

A name table holds at most one value for a name.  Its entries stand in the order
of their names, which compares texts character by character; this is also the
order of their UTF-8 bytes.

Because the order is part of the type, a table is determined by its values: two
tables that answer `get?` alike are equal (`ext_get?`), whatever was inserted
into them and in which order.  Main statements: `get?_insert`, `get?_ofList`.
-/
namespace GeoFeed

set_option autoImplicit false

variable {α : Type}

/-- Entries in the order of their names, each name once. -/
def NameTable.Sorted (entries : List (String × α)) : Prop :=
  entries.Pairwise fun a b => a.1 < b.1

structure NameTable (α : Type) where
  entries : List (String × α)
  sorted : NameTable.Sorted entries

namespace NameTable

/-- The entries with `value` under `name`. -/
def place (name : String) (value : α) : List (String × α) → List (String × α)
  | [] => [(name, value)]
  | (other, kept) :: rest =>
      if name = other then (name, value) :: rest
      else if name < other then (name, value) :: (other, kept) :: rest
      else (other, kept) :: place name value rest

theorem mem_place {name : String} {value : α} {entries : List (String × α)} {e : String × α}
    (h : e ∈ place name value entries) : e = (name, value) ∨ e ∈ entries := by
  induction entries with
  | nil => simpa [place] using h
  | cons head rest ih =>
      obtain ⟨other, kept⟩ := head
      simp only [place] at h
      split at h
      · rcases List.mem_cons.1 h with rfl | h
        · exact Or.inl rfl
        · exact Or.inr (List.mem_cons_of_mem _ h)
      · split at h
        · rcases List.mem_cons.1 h with rfl | h
          · exact Or.inl rfl
          · exact Or.inr h
        · rcases List.mem_cons.1 h with rfl | h
          · exact Or.inr List.mem_cons_self
          · exact (ih h).imp_right (List.mem_cons_of_mem _)

theorem sorted_place (name : String) (value : α) {entries : List (String × α)}
    (h : Sorted entries) : Sorted (place name value entries) := by
  induction entries with
  | nil => exact List.pairwise_singleton _ _
  | cons head rest ih =>
      obtain ⟨other, kept⟩ := head
      obtain ⟨first, tail⟩ := List.pairwise_cons.1 h
      simp only [place]
      split
      · rename_i same
        subst same
        exact List.pairwise_cons.2 ⟨first, tail⟩
      · rename_i different
        split
        · rename_i before
          refine List.pairwise_cons.2 ⟨fun e he => ?_, h⟩
          rcases List.mem_cons.1 he with rfl | he
          · exact before
          · exact String.lt_trans before (first e he)
        · rename_i notBefore
          refine List.pairwise_cons.2 ⟨fun e he => ?_, ih tail⟩
          rcases mem_place he with rfl | he
          · have := String.not_lt.1 notBefore
            rcases Decidable.em (other < name) with lt | ge
            · exact lt
            · exact absurd (String.le_antisymm (String.not_lt.1 ge) this) different
          · exact first e he

/-- The table without entries. -/
def empty : NameTable α := ⟨[], List.Pairwise.nil⟩

instance : Inhabited (NameTable α) := ⟨empty⟩

/-- The table with `value` under `name`, in place of any value that was there. -/
def insert (t : NameTable α) (name : String) (value : α) : NameTable α :=
  ⟨place name value t.entries, sorted_place name value t.sorted⟩

/-- The value under a name. -/
def get? (t : NameTable α) (name : String) : Option α :=
  t.entries.lookup name

def contains (t : NameTable α) (name : String) : Bool :=
  (t.get? name).isSome

def size (t : NameTable α) : Nat := t.entries.length

def isEmpty (t : NameTable α) : Bool := t.entries.isEmpty

def toList (t : NameTable α) : List (String × α) := t.entries

/-- The names that have a value, in order. -/
def names (t : NameTable α) : List String := t.entries.map Prod.fst

/-- Insert the entries one after the other, so that the last value of a name
stays. -/
def ofList (entries : List (String × α)) : NameTable α :=
  entries.foldl (fun t (name, value) => t.insert name value) empty

theorem lookup_cons_eq (name key : String) (value : α) (rest : List (String × α)) :
    ((key, value) :: rest).lookup name = if name = key then some value else rest.lookup name := by
  by_cases h : name = key
  · simp [h]
  · have : (name == key) = false := by simpa using h
    simp [List.lookup_cons, this, h]

theorem lookup_place (name other : String) (value : α) (entries : List (String × α)) :
    (place name value entries).lookup other
      = if other = name then some value else entries.lookup other := by
  induction entries with
  | nil => simp [place, lookup_cons_eq]
  | cons head rest ih =>
      obtain ⟨first, kept⟩ := head
      simp only [place]
      split
      · rename_i same
        subst same
        by_cases h : other = name <;> simp [lookup_cons_eq, h]
      · rename_i different
        split
        · simp [lookup_cons_eq]
        · by_cases h : other = first
          · have : other ≠ name := fun e => different (e ▸ h)
            simp [h, Ne.symm different]
          · simp [lookup_cons_eq, h, ih]

@[simp]
theorem get?_insert (t : NameTable α) (name other : String) (value : α) :
    (t.insert name value).get? other = if other = name then some value else t.get? other :=
  lookup_place name other value t.entries

@[simp]
theorem get?_empty (name : String) : (empty : NameTable α).get? name = none := rfl

theorem lookup_of_sorted {entries : List (String × α)} (h : Sorted entries) {name : String}
    {value : α} (member : (name, value) ∈ entries) : entries.lookup name = some value := by
  induction entries with
  | nil => simp at member
  | cons head rest ih =>
      obtain ⟨first, tail⟩ := List.pairwise_cons.1 h
      rcases List.mem_cons.1 member with rfl | inRest
      · simp
      · obtain ⟨key, kept⟩ := head
        have later : key < name := first (name, value) inRest
        have : name ≠ key := fun e => String.lt_irrefl key (e ▸ later)
        simpa [lookup_cons_eq, this] using ih tail inRest

theorem mem_of_lookup {entries : List (String × α)} {name : String} {value : α}
    (h : entries.lookup name = some value) : (name, value) ∈ entries := by
  induction entries with
  | nil => cases h
  | cons head rest ih =>
      obtain ⟨first, kept⟩ := head
      by_cases same : name = first
      · subst same
        rw [lookup_cons_eq, if_pos rfl, Option.some.injEq] at h
        simp [h]
      · rw [lookup_cons_eq, if_neg same] at h
        exact List.mem_cons_of_mem _ (ih h)

theorem mem_toList_iff (t : NameTable α) (name : String) (value : α) :
    (name, value) ∈ t.toList ↔ t.get? name = some value :=
  ⟨lookup_of_sorted t.sorted, mem_of_lookup⟩

/-- Sorted lists with the same members are equal. -/
theorem sorted_ext {l r : List (String × α)} (hl : Sorted l) (hr : Sorted r)
    (same : ∀ e, e ∈ l ↔ e ∈ r) : l = r := by
  induction l generalizing r with
  | nil =>
      cases r with
      | nil => rfl
      | cons e r => exact absurd ((same e).2 List.mem_cons_self) List.not_mem_nil
  | cons a l ih =>
      cases r with
      | nil => exact absurd ((same a).1 List.mem_cons_self) List.not_mem_nil
      | cons b r =>
          obtain ⟨aFirst, lTail⟩ := List.pairwise_cons.1 hl
          obtain ⟨bFirst, rTail⟩ := List.pairwise_cons.1 hr
          have heads : a = b := by
            rcases List.mem_cons.1 ((same a).1 List.mem_cons_self) with h | inR
            · exact h
            · rcases List.mem_cons.1 ((same b).2 List.mem_cons_self) with h | inL
              · exact h.symm
              · exact absurd (aFirst b inL) (String.lt_asymm (bFirst a inR))
          subst heads
          refine congrArg (a :: ·) (ih lTail rTail fun e => ?_)
          constructor
          · intro h
            rcases List.mem_cons.1 ((same e).1 (List.mem_cons_of_mem _ h)) with rfl | h'
            · exact absurd (aFirst e h) (String.lt_irrefl _)
            · exact h'
          · intro h
            rcases List.mem_cons.1 ((same e).2 (List.mem_cons_of_mem _ h)) with rfl | h'
            · exact absurd (bFirst e h) (String.lt_irrefl _)
            · exact h'

theorem ext_toList {s t : NameTable α} (same : s.toList = t.toList) : s = t := by
  cases s
  cases t
  cases same
  rfl

/-- **A table is determined by its values.** -/
theorem ext_get? {s t : NameTable α} (h : ∀ name, s.get? name = t.get? name) : s = t := by
  refine ext_toList (sorted_ext s.sorted t.sorted fun (name, value) => ?_)
  have := mem_toList_iff s name value
  have := mem_toList_iff t name value
  simp_all [toList]

theorem get?_foldl_insert (entries : List (String × α)) (t : NameTable α) (name : String) :
    (entries.foldl (fun t (name, value) => t.insert name value) t).get? name
      = (entries.reverse.lookup name).or (t.get? name) := by
  induction entries generalizing t with
  | nil => simp
  | cons head rest ih =>
      obtain ⟨first, value⟩ := head
      simp only [List.foldl_cons, ih, List.reverse_cons, get?_insert]
      rw [List.lookup_append]
      by_cases h : name = first <;>
        cases rest.reverse.lookup name <;> simp [lookup_cons_eq, h]

/-- The value of a name is the last one given. -/
theorem get?_ofList (entries : List (String × α)) (name : String) :
    (ofList entries).get? name = entries.reverse.lookup name := by
  simp [ofList, get?_foldl_insert]

end NameTable

end GeoFeed
