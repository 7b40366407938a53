/-
# GeoFeed.Proofs.Feed.Heading -- the title and the description of a channel

A static catalog is asked by texts.  Each text names a type in two ways: as a qualified
name, which is the text itself but for a colon at its front (`Catalog.qualifiedKey`), and as
a local name, which is what follows its first colon (`Catalog.localKey`).  The table is
asked for the qualified name first, so an entry under that name hides the one under the
local name even if it has no texts.

One text that the table has under neither name is enough for both the title and the
description to be given up, wherever it stands and whatever the other entries say.
Otherwise each is the lines of its own field, and no lines at all make an empty text.

The gathering stops at the first failure, so what it gathers is no row of look-ups by
definition; `texts_ofTable` shows that it is one, by induction on the texts.

Main statement: `channelTexts_all_or_nothing`.
-/
import GeoFeed.Feed.Plan
import Mathlib.Data.List.DropRight

namespace GeoFeed

set_option autoImplicit false

/-! ## Lines -/

namespace Text

theorem trimFront_eq_nil_iff {cs : List Char} : trimFront cs = [] ↔ ∀ c ∈ cs, isBlank c = true :=
  List.dropWhile_eq_nil_iff

theorem trimBack_eq_nil_iff {cs : List Char} : trimBack cs = [] ↔ ∀ c ∈ cs, isBlank c = true :=
  List.rdropWhile_eq_nil_iff

/-- Nothing is left of a text exactly if it is blank. -/
theorem trimChars_eq_nil_iff {cs : List Char} : trimChars cs = [] ↔ ∀ c ∈ cs, isBlank c = true := by
  rw [trimChars, trimBack_eq_nil_iff]
  constructor
  · intro blank
    -- a first character that is not blank would head what the front has left
    rw [← trimFront_eq_nil_iff]
    by_contra some_
    have seen : isBlank ((List.dropWhile isBlank cs).head some_) = true :=
      blank _ (List.head_mem some_)
    rw [List.head_dropWhile_not isBlank some_] at seen
    cases seen
  · intro blank c member
    exact blank c ((List.dropWhile_sublist _).subset member)

/-- Whether a text has nothing but blanks in it. -/
def isBlankText (s : String) : Bool := s.toList.all isBlank

theorem isEmpty_trim (s : String) : (trim s).isEmpty = isBlankText s := by
  rw [Bool.eq_iff_iff, String.isEmpty_iff, isBlankText, List.all_eq_true, ← trimChars_eq_nil_iff,
    ← toList_trim, String.toList_eq_nil_iff]

theorem nonBlank?_eq (s : String) : nonBlank? s = if isBlankText s then none else some (trim s) := by
  show (if (trim s).isEmpty then none else some (trim s)) = _
  rw [isEmpty_trim]

/-- Texts without blanks around them, blank ones left out. -/
def lines (texts : List String) : List String :=
  (texts.filter (!isBlankText ·)).map trim

theorem lines_append (front back : List String) : lines (front ++ back) = lines front ++ lines back := by
  simp [lines]

theorem lines_toList (text? : Option String) : lines text?.toList = (text?.bind nonBlank?).toList := by
  cases text? with
  | none => rfl
  | some text =>
      rw [Option.toList_some, Option.bind_some]
      by_cases blank : isBlankText text = true <;> simp [lines, nonBlank?_eq, blank]

end Text

/-! ## Names -/

namespace Catalog

/-- The name that a text is looked up by first. -/
def qualifiedKey (text : String) : String :=
  if text.toList.head? = some ':' then String.ofList text.toList.tail else text

/-- The name that a text is looked up by if the first one is not there. -/
def localKey (text : String) : String :=
  if ':' ∈ text.toList then String.ofList (text.toList.dropWhile (· ≠ ':')).tail else text

theorem dropWhile_append_mark {front back : List Char} (free : ':' ∉ front) :
    (front ++ ':' :: back).dropWhile (· ≠ ':') = ':' :: back := by
  rw [List.dropWhile_append_of_pos]
  · simp
  · intro c member
    simp only [ne_eq, decide_not, Bool.not_eq_eq_eq_not, Bool.not_true, decide_eq_false_iff_not]
    rintro rfl
    exact free member

theorem localPart_ofText (text uri : String) : (TypeName.ofText text uri).localPart = localKey text := by
  unfold TypeName.ofText Text.cutAt?
  cases cut : Text.cut? ':' text.toList with
  | none =>
      have free : ':' ∉ text.toList := Text.cut?_eq_none_iff.1 cut
      simp [localKey, free]
  | some sides =>
      obtain ⟨front, back⟩ := sides
      obtain ⟨parted, free⟩ := Text.cut?_eq_some_iff.1 cut
      have marked : ':' ∈ text.toList := by simp [parted]
      rw [localKey, if_pos marked, parted, dropWhile_append_mark free]
      rfl

theorem toText_ofText (text uri : String) : (TypeName.ofText text uri).toText = qualifiedKey text := by
  unfold TypeName.ofText Text.cutAt?
  cases cut : Text.cut? ':' text.toList with
  | none =>
      have free : ':' ∉ text.toList := Text.cut?_eq_none_iff.1 cut
      have unmarked : text.toList.head? ≠ some ':' := fun head => free (List.mem_of_mem_head? head)
      simp [qualifiedKey, unmarked, TypeName.toText]
  | some sides =>
      obtain ⟨front, back⟩ := sides
      obtain ⟨parted, free⟩ := Text.cut?_eq_some_iff.1 cut
      cases front with
      | nil => simp [qualifiedKey, parted, TypeName.toText]
      | cons c front =>
          have other : c ≠ ':' := fun same => free (same ▸ List.mem_cons_self)
          have whole : text = String.ofList (c :: front) ++ ":" ++ String.ofList back := by
            rw [← String.toList_inj, parted]
            simp
          have full : (String.ofList (c :: front)).isEmpty = false := by
            rw [← Bool.not_eq_true, String.isEmpty_iff, String.ofList_eq_empty_iff]
            simp
          have key : qualifiedKey text = text := by simp [qualifiedKey, parted, other]
          simp only [Option.map_some, TypeName.toText, full, Bool.false_eq_true, if_false]
          rw [key, whole]

variable (table : NameTable TypeInfo)

/-- What a table knows about the type that a text names. -/
def info? (text : String) : Option TypeInfo :=
  (table.get? (qualifiedKey text)).or (table.get? (localKey text))

/-- A text that names no type of the table. -/
def Unlisted (text : String) : Prop :=
  table.get? (qualifiedKey text) = none ∧ table.get? (localKey text) = none

instance (text : String) : Decidable (Unlisted table text) :=
  inferInstanceAs (Decidable (_ ∧ _))

theorem info?_eq_none_iff {text : String} : info? table text = none ↔ Unlisted table text :=
  Option.or_eq_none_iff

theorem ofTable_ofText (text uri : String) :
    ofTable table (.ofText text uri) = match info? table text with
      | some info => .ok info
      | none => .error (.notFound (qualifiedKey text)) := by
  rw [ofTable, toText_ofText, localPart_ofText]
  rfl

/-! ## Gathering -/

variable (field : TypeInfo → Option String) (uri : String)

/-- The texts of a field that a table has for the types that texts name. -/
def known (texts : List String) : List String :=
  texts.filterMap fun text => (info? table text).bind field

/-- **Gathering fails exactly at a text that is unlisted,** and finds all lines otherwise. -/
theorem texts_ofTable (texts : List String) :
    ((∃ text ∈ texts, Unlisted table text) ∧
        ∃ cause, (ofTable table).texts field (texts.map (TypeName.ofText · uri)) = .error cause) ∨
      ((∀ text ∈ texts, ¬ Unlisted table text) ∧
        (ofTable table).texts field (texts.map (TypeName.ofText · uri))
          = .ok (Text.lines (known table field texts))) := by
  induction texts with
  | nil => exact .inr ⟨by simp, rfl⟩
  | cons text rest ih =>
      rw [List.map_cons, Catalog.texts_cons, ofTable_ofText]
      cases found : info? table text with
      | none =>
          have unlisted := (info?_eq_none_iff table).1 found
          exact .inl ⟨⟨text, List.mem_cons_self, unlisted⟩, _, rfl⟩
      | some info =>
          have listed : ¬ Unlisted table text := by
            rw [← info?_eq_none_iff, found]
            simp
          rcases ih with ⟨⟨other, member, unlisted⟩, cause, failed⟩ | ⟨all, gathered⟩
          · refine .inl ⟨⟨other, List.mem_cons_of_mem _ member, unlisted⟩, cause, ?_⟩
            simp only [failed]
            rfl
          · refine .inr ⟨List.forall_mem_cons.2 ⟨listed, all⟩, ?_⟩
            have first : known table field (text :: rest)
                = (field info).toList ++ known table field rest := by
              cases has : field info <;> simp [known, found, has]
            simp only [gathered]
            rw [first, Text.lines_append, Text.lines_toList]
            rfl

/-- A channel text from a table: the lines of a field, or what stands in for them. -/
theorem channelText_ofTable (standIn what : String) (texts : List String) :
    ((ofTable table).channelText field standIn what (texts.map (TypeName.ofText · uri))).value
      = if ∃ text ∈ texts, Unlisted table text then standIn
        else "\n".intercalate (Text.lines (known table field texts)) := by
  rw [channelText_eq]
  rcases texts_ofTable table field uri texts with ⟨unlisted, cause, failed⟩ | ⟨listed, gathered⟩
  · rw [if_pos unlisted, failed]
    rfl
  · have none_ : ¬ ∃ text ∈ texts, Unlisted table text := by
      rintro ⟨text, member, unlisted⟩
      exact listed text member unlisted
    rw [if_neg none_, gathered]
    rfl

end Catalog

/-! ## Channels -/

/-- A request for the types that texts name. -/
def Request.naming (r : Request) (texts : List String) (uri : String) : Request :=
  { r with types := texts.map (TypeName.ofText · uri) }

namespace Publisher

/-- A publisher of a name that asks a table for its types. -/
def asking (p : Publisher) (table : NameTable TypeInfo) (system : String) : Publisher :=
  { p with catalog := .ofTable table, systemName := system }

variable (p : Publisher) (r : Request) (table : NameTable TypeInfo) (uri : String)

/-- The title of a channel for the types that texts name. -/
def titleOf (texts : List String) (system : String) : String :=
  ((p.asking table system).channelTitle (r.naming texts uri)).value

/-- The description of a channel for the types that texts name. -/
def descriptionOf (texts : List String) (system : String) : String :=
  ((p.asking table system).channelDescription (r.naming texts uri)).value

theorem titleOf_eq (texts : List String) (system : String) :
    p.titleOf r table uri texts system
      = if ∃ text ∈ texts, Catalog.Unlisted table text then autoGenerated system
        else "\n".intercalate (Text.lines (Catalog.known table TypeInfo.title texts)) :=
  Catalog.channelText_ofTable table TypeInfo.title uri (autoGenerated system) "title" texts

theorem descriptionOf_eq (texts : List String) (system : String) :
    p.descriptionOf r table uri texts system
      = if ∃ text ∈ texts, Catalog.Unlisted table text then autoGenerated system
        else "\n".intercalate (Text.lines (Catalog.known table TypeInfo.abstract texts)) :=
  Catalog.channelText_ofTable table TypeInfo.abstract uri (autoGenerated system) "description" texts

/-- No text names every system. -/
theorem exists_autoGenerated_ne (text : String) : ∃ system, text ≠ autoGenerated system := by
  by_contra all
  simp only [ne_eq, not_exists, not_not] at all
  have same : autoGenerated "a" = autoGenerated "b" := (all "a").symm.trans (all "b")
  revert same
  decide

/-- A text that is given up under a condition, and does not know the system otherwise, names
the system exactly under the condition. -/
theorem forall_ite_eq_autoGenerated_iff {givenUp : Prop} [Decidable givenUp] {line : String} :
    (∀ system, (if givenUp then autoGenerated system else line) = autoGenerated system)
      ↔ givenUp := by
  constructor
  · intro all
    by_contra kept
    obtain ⟨system, ne⟩ := exists_autoGenerated_ne line
    have one := all system
    rw [if_neg kept] at one
    exact ne one
  · intro holds system
    rw [if_pos holds]

/-- **The texts of a channel come from the catalog all or nothing.**  One text that the table
has under neither of its names makes title and description tell of the system only, wherever
it stands.  Otherwise the title is the lines of the titles, and the description those of the
abstracts, in the order of the texts.  So the order of the texts has no say in whether the
catalog is given up. -/
theorem channelTexts_all_or_nothing (texts : List String) :
    ((∀ system, p.titleOf r table uri texts system = "Auto-generated by " ++ system)
      ↔ ∃ text ∈ texts, Catalog.Unlisted table text) ∧
    ((∀ system, p.descriptionOf r table uri texts system = "Auto-generated by " ++ system)
      ↔ ∃ text ∈ texts, Catalog.Unlisted table text) ∧
    (∀ system, p.titleOf r table uri texts system
      = if ∃ text ∈ texts, Catalog.Unlisted table text then "Auto-generated by " ++ system
        else "\n".intercalate (Text.lines (Catalog.known table TypeInfo.title texts))) ∧
    (∀ system, p.descriptionOf r table uri texts system
      = if ∃ text ∈ texts, Catalog.Unlisted table text then "Auto-generated by " ++ system
        else "\n".intercalate (Text.lines (Catalog.known table TypeInfo.abstract texts))) ∧
    ∀ other : List String, other.Perm texts →
      ((∀ system, p.titleOf r table uri other system = "Auto-generated by " ++ system)
        ↔ ∀ system, p.titleOf r table uri texts system = "Auto-generated by " ++ system) ∧
      ((∀ system, p.descriptionOf r table uri other system = "Auto-generated by " ++ system)
        ↔ ∀ system, p.descriptionOf r table uri texts system = "Auto-generated by " ++ system) := by
  have title (texts : List String) :
      (∀ system, p.titleOf r table uri texts system = autoGenerated system)
        ↔ ∃ text ∈ texts, Catalog.Unlisted table text := by
    simp only [titleOf_eq]
    exact forall_ite_eq_autoGenerated_iff
  have description (texts : List String) :
      (∀ system, p.descriptionOf r table uri texts system = autoGenerated system)
        ↔ ∃ text ∈ texts, Catalog.Unlisted table text := by
    simp only [descriptionOf_eq]
    exact forall_ite_eq_autoGenerated_iff
  refine ⟨title texts, description texts, p.titleOf_eq r table uri texts,
    p.descriptionOf_eq r table uri texts, ?_⟩
  intro other order
  have same : (∃ text ∈ other, Catalog.Unlisted table text)
      ↔ ∃ text ∈ texts, Catalog.Unlisted table text := by
    simp only [order.mem_iff]
  exact ⟨(title other).trans (same.trans (title texts).symm),
    (description other).trans (same.trans (description texts).symm)⟩

/-- An entry under the qualified name hides the one under the local name, and blank titles make
an empty text. -/
example :
    let table : NameTable TypeInfo :=
      .ofList [("a:b", { title := some " " }), ("b", { title := some "B" })]
    Text.lines (Catalog.known table TypeInfo.title ["a:b"]) = []
      ∧ Text.lines (Catalog.known table TypeInfo.title ["c:b", ":b"]) = ["B", "B"] := by
  decide +kernel

end Publisher

end GeoFeed
