/-
# GeoFeed.Proofs.Xml.Section -- a text and its sections

A text is written as CDATA sections with nothing between them.  A reader that ends each
section at the first `]]>` takes exactly what was written, whatever follows it, and the
sections that it finds hold the text, one after the other.

The number of sections is settled by the text: one for each place where a `]]>` begins
(`occurrences`), and one more.  A section begins with the angle bracket of the mark that
was parted, and no mark begins in the two characters before it, so each mark of the text
is met once and no other is made at a seam.

Main statement: `writeAll_cdataEvents`.
-/
import Mathlib.Data.List.Basic
import GeoFeed.Proofs.Xml.Tree

namespace GeoFeed.Xml

set_option autoImplicit false

/-- What ends a CDATA section. -/
def sectionEnd : List Char := [']', ']', '>']

/-- The number of places in a text where a mark begins. -/
def occurrences (mark text : List Char) : Nat :=
  text.tails.countP mark.isPrefixOf

theorem occurrences_cons_of_prefix {mark : List Char} {c : Char} {rest : List Char}
    (here : mark.isPrefixOf (c :: rest) = true) :
    occurrences mark (c :: rest) = occurrences mark rest + 1 := by
  rw [occurrences, List.tails, List.countP_cons_of_pos here, occurrences]

theorem occurrences_cons_of_not_prefix {mark : List Char} {c : Char} {rest : List Char}
    (elsewhere : mark.isPrefixOf (c :: rest) = false) :
    occurrences mark (c :: rest) = occurrences mark rest := by
  rw [occurrences, List.tails, List.countP_cons_of_neg (by simp [elsewhere]), occurrences]

/-- **There is one section more than there are marks in the text.** -/
theorem length_cdataSectionsFrom (seen text : List Char) :
    (cdataSectionsFrom seen text).length = occurrences sectionEnd text + 1 := by
  fun_induction cdataSectionsFrom seen text with
  | case1 seen rest ih =>
      have bracket : sectionEnd.isPrefixOf (']' :: '>' :: rest) = false := by
        simp [sectionEnd, List.isPrefixOf]
      have angle : sectionEnd.isPrefixOf ('>' :: rest) = false := by
        simp [sectionEnd, List.isPrefixOf]
      rw [List.length_cons, ih, occurrences_cons_of_prefix (by simp [sectionEnd, List.isPrefixOf]),
        occurrences_cons_of_not_prefix bracket, occurrences_cons_of_not_prefix angle]
  | case2 seen c rest open_ ih =>
      have elsewhere : sectionEnd.isPrefixOf (c :: rest) = false := by
        rw [Bool.eq_false_iff]
        intro here
        obtain ⟨after, same⟩ := List.isPrefixOf_iff_prefix.1 here
        obtain ⟨rfl, rfl⟩ := List.cons.inj same
        exact open_ after rfl rfl
      rw [ih, occurrences_cons_of_not_prefix elsewhere]
  | case3 seen => rfl

theorem length_cdataSections (text : List Char) :
    (cdataSections text).length = occurrences sectionEnd text + 1 :=
  length_cdataSectionsFrom [] text

/-- **A text comes back from its sections.**  An output without a limit takes them all.  A
reader finds them and nothing else in what was written, and goes on with what follows
them.  Put together they are the text; no section holds the end of a section, and there
is one more of them than the text has such ends. -/
theorem writeAll_cdataEvents (output : Output) (unlimited : output.room = none)
    (content : String) :
    ∃ parts : List String,
      output.writeAll (cdataEvents content) = ⟨bytes (parts.map .cdata), output, none⟩ ∧
      tokensOfBytes? (output.writeAll (cdataEvents content)).bytes = some (parts.map .cdata) ∧
      (∀ rest, tokens? (eventsToChars (cdataEvents content) ++ rest)
        = (tokens? rest).map (parts.map .cdata ++ ·)) ∧
      String.join parts = content ∧
      (∀ part ∈ parts, EndFree part.toList) ∧
      parts.length = occurrences sectionEnd content.toList + 1 := by
  have events : cdataEvents content
      = ((cdataSections content.toList).map String.ofList).map .cdata := by
    rw [cdataEvents, List.map_map]
    rfl
  have free : ∀ part ∈ (cdataSections content.toList).map String.ofList, EndFree part.toList := by
    intro part member
    obtain ⟨chars, inside, rfl⟩ := List.mem_map.1 member
    rw [String.toList_ofList]
    exact endFree_of_mem_sections inside
  have tokens : ∀ parts : List String,
      (parts.map Event.cdata).flatMap Event.tokens = parts.map Token.cdata := by
    intro parts
    rw [List.flatMap_map]
    exact List.flatMap_pure_eq_map _ _
  have legible : ∀ e ∈ cdataEvents content, e.Legible := (Spells.cdataEvents content).legible
  have written : output.writeAll (cdataEvents content)
      = ⟨bytes (cdataEvents content), output, none⟩ :=
    Output.writeAll_unlimited unlimited _
  refine ⟨(cdataSections content.toList).map String.ofList, ?_, ?_, ?_, ?_, free, ?_⟩
  · rw [written, ← events]
  · rw [written, tokensOfBytes?_bytes legible, events, tokens]
  · intro rest
    rw [tokens?_eventsToChars_append legible, events, tokens]
  · apply String.toList_inj.1
    rw [String.toList_join, List.flatMap_map]
    simp only [String.toList_ofList, List.flatMap_id', flatten_cdataSections]
  · rw [List.length_map, length_cdataSections]

/-- Marks at both ends and brackets at a seam: four sections for three marks. -/
theorem writeAll_cdataEvents_brackets :
    (⟨none, ""⟩ : Output).room = none ∧
      ∃ parts : List String,
        tokensOfBytes? ((⟨none, ""⟩ : Output).writeAll (cdataEvents "]]>]]]]>>]]>")).bytes
          = some (parts.map .cdata) ∧
        String.join parts = "]]>]]]]>>]]>" ∧ parts.length = 4 := by
  obtain ⟨parts, -, read, -, joined, -, count⟩ :=
    writeAll_cdataEvents ⟨none, ""⟩ rfl "]]>]]]]>>]]>"
  exact ⟨rfl, parts, read, joined, count.trans (by decide +kernel)⟩

end GeoFeed.Xml
