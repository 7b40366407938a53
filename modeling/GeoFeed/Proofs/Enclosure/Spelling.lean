/-
# GeoFeed.Proofs.Enclosure.Spelling -- enclosures that are written read back

A block may be written in many ways.  Each enclosure takes three lines, one for each field,
in any order (`Listed`).  A line has its field, an equals sign and the value, with blanks at
either end if one likes; it ends with a line feed, a carriage return or both, and lines
that say nothing may stand anywhere between the others (`Means`, `Written`).  Whichever way is
taken, the enclosures that the block lists are those that were written.

A block is read line by line: a line end parts what is said before it from what is said
after it (`assigned_append_ending`), so what a written block assigns is the row of its
lines.  A value comes back without the blanks at its end, which is why a value that is to
come back as it is must not have any (`Holdable`).  That a row of three lines each makes
the enclosures it was written for is settled by the segmentation of assignments: no two of
three lines cover three fields.

Lines that lack a field make no enclosure, so they may follow the others.

Main statement: `listOfBlock_written`.
-/
import GeoFeed.Proofs.Enclosure.Segmentation
import Mathlib.Data.List.DropRight
import Mathlib.Data.List.Perm.Subperm

namespace GeoFeed

set_option autoImplicit false

/-! ## Blanks -/

namespace Text

theorem trimFront_append {blanks cs : List Char} (blank : ∀ c ∈ blanks, isBlank c = true) :
    trimFront (blanks ++ cs) = trimFront cs :=
  List.dropWhile_append_of_pos blank

theorem trimBack_append {cs blanks : List Char} (blank : ∀ c ∈ blanks, isBlank c = true) :
    trimBack (cs ++ blanks) = trimBack cs := by
  rw [trimBack, List.reverse_append, List.dropWhile_append_of_pos]
  · rfl
  · intro c member
    exact blank c (List.mem_reverse.1 member)

/-- Trimming at the back stops at a character that is not blank. -/
theorem trimBack_append_cons {c : Char} (seen : isBlank c = false) (front back : List Char) :
    trimBack (front ++ c :: back) = front ++ c :: trimBack back := by
  have stops : (back.reverse ++ c :: front.reverse).dropWhile isBlank
      = back.reverse.dropWhile isBlank ++ c :: front.reverse := by
    rw [List.dropWhile_append]
    split
    · rename_i empty
      rw [List.isEmpty_iff.1 empty, List.dropWhile_cons, seen]
      rfl
    · rfl
  simp [trimBack, stops]

/-- A line with a key before an equals sign is trimmed in front of the key and at the end. -/
theorem trimChars_keyed {blanks key rest : List Char} (blank : ∀ c ∈ blanks, isBlank c = true)
    (starts : ∀ c, key.head? = some c → isBlank c = false) :
    trimChars (blanks ++ key ++ '=' :: rest) = key ++ '=' :: trimBack rest := by
  have kept : trimFront (key ++ '=' :: rest) = key ++ '=' :: rest := by
    rw [trimFront_eq_self_iff]
    intro c head
    cases key with
    | nil =>
        cases head
        decide
    | cons d key => exact starts c head
  rw [trimChars, List.append_assoc, trimFront_append blank, kept, trimBack_append_cons (by decide)]

end Text

namespace Enclosure

/-! ## Lines -/

/-- A text within one line. -/
def InLine (cs : List Char) : Prop := ∀ c ∈ cs, c ≠ '\r' ∧ c ≠ '\n'

instance (cs : List Char) : Decidable (InLine cs) :=
  List.decidableBAll _ cs

/-- What may stand at either end of a line. -/
def Margin (cs : List Char) : Prop := InLine cs ∧ ∀ c ∈ cs, Text.isBlank c = true

instance (cs : List Char) : Decidable (Margin cs) :=
  @instDecidableAnd (InLine cs) (∀ c ∈ cs, Text.isBlank c = true) inferInstance
    (List.decidableBAll _ cs)

/-- What ends a line. -/
inductive Ending : List Char → Prop where
  | lineFeed : Ending ['\n']
  | carriageReturn : Ending ['\r']
  | both : Ending ['\r', '\n']

/-- A line that says nothing: it has no equals sign, or something else before the first one than
the name of a field in its exact spelling. -/
inductive Silent : List Char → Prop where
  | unmarked {line : List Char} (inLine : InLine line) (free : '=' ∉ line) : Silent line
  | unknown {front key rest : List Char} (margin : Margin front) (inLine : InLine (key ++ '=' :: rest))
      (starts : ∀ c, key.head? = some c → Text.isBlank c = false) (first : '=' ∉ key)
      (other : ∀ field : Field, key ≠ field.name.toList) : Silent (front ++ key ++ '=' :: rest)

/-- A line and what it means. -/
inductive Means : List Char → List (Field × String) → Prop where
  | nothing {line : List Char} (silent : Silent line) : Means line []
  | value {front back : List Char} {field : Field} {value : String} (margin : Margin front)
      (inLine : InLine value.toList) (margin' : Margin back) :
      Means (front ++ field.name.toList ++ '=' :: (value.toList ++ back)) [(field, value)]

/-- A text and what its lines say, in order.  The last line need not be ended. -/
inductive Written : List Char → List (Field × String) → Prop where
  | last {line : List Char} {said : List (Field × String)} (means : Means line said) :
      Written line said
  | cons {line ending text : List Char} {said row : List (Field × String)} (means : Means line said)
      (ends : Ending ending) (after : Written text row) :
      Written (line ++ ending ++ text) (said ++ row)

/-- A value as it is read: without the blanks at its end. -/
def readValue (value : String) : String := String.ofList (Text.trimBack value.toList)

/-- An assignment as it is read. -/
def readOne (assigned : Field × String) : Field × String := (assigned.1, readValue assigned.2)

theorem Field.starts_name (field : Field) :
    ∀ c, field.name.toList.head? = some c → Text.isBlank c = false := by
  intro c first
  cases field <;> obtain rfl := Option.some.inj first <;> decide

theorem InLine.append {cs ds : List Char} (first : InLine cs) (second : InLine ds) :
    InLine (cs ++ ds) :=
  List.forall_mem_append.2 ⟨first, second⟩

theorem Field.inLine_name (field : Field) : InLine field.name.toList := by
  cases field <;> decide

/-- A line that is keyed says what its key is, and its value is trimmed at the end. -/
theorem assignment?_keyed {blanks key rest : List Char}
    (blank : ∀ c ∈ blanks, Text.isBlank c = true)
    (starts : ∀ c, key.head? = some c → Text.isBlank c = false) (first : '=' ∉ key) :
    assignment? (blanks ++ key ++ '=' :: rest)
      = (Field.ofName? key).map fun field => (field, String.ofList (Text.trimBack rest)) := by
  have cut : Text.cut? '=' (key ++ '=' :: Text.trimBack rest) = some (key, Text.trimBack rest) :=
    Text.cut?_eq_some_iff.2 ⟨rfl, first⟩
  rw [assignment?, Text.trimChars_keyed blank starts, cut]
  show (Field.ofName? key).bind _ = _
  cases Field.ofName? key with
  | none => rfl
  | some field => rfl

theorem Silent.inLine {line : List Char} (silent : Silent line) : InLine line := by
  cases silent with
  | unmarked inLine free => exact inLine
  | unknown margin inLine starts first other =>
      rw [List.append_assoc]
      exact margin.1.append inLine

theorem assignment?_silent {line : List Char} (silent : Silent line) : assignment? line = none := by
  cases silent with
  | unmarked inLine free =>
      have none_ : Text.cut? '=' (Text.trimChars line) = none := by
        rw [Text.cut?_eq_none_iff]
        intro member
        exact free ((List.dropWhile_sublist _).subset
          (List.mem_reverse.1 ((List.dropWhile_sublist _).subset (List.mem_reverse.1 member))))
      rw [assignment?, none_]
      rfl
  | unknown margin inLine starts first other =>
      rw [assignment?_keyed margin.2 starts first, Option.map_eq_none_iff,
        Option.eq_none_iff_forall_ne_some]
      intro field named
      exact other field (Field.ofName?_eq_some_iff.1 named)

theorem Means.inLine {line : List Char} {said : List (Field × String)} (means : Means line said) :
    InLine line := by
  cases means with
  | nothing silent => exact silent.inLine
  | @value front back field value margin inLine margin' =>
      have mark : InLine ['='] := by decide
      exact (margin.1.append field.inLine_name).append (mark.append (inLine.append margin'.1))

/-- **A line is read as what it means.** -/
theorem Means.toList_assignment? {line : List Char} {said : List (Field × String)}
    (means : Means line said) : (assignment? line).toList = said.map readOne := by
  cases means with
  | nothing silent =>
      rw [assignment?_silent silent]
      rfl
  | @value front back field value margin inLine margin' =>
      have named : Field.ofName? field.name.toList = some field := Field.ofName?_eq_some_iff.2 rfl
      rw [assignment?_keyed margin.2 field.starts_name field.equals_not_mem_name, named,
        Text.trimBack_append margin'.2]
      rfl

/-! ## Texts -/

/-- What the lines of a text assign. -/
def assigned (text : List Char) : List (Field × String) :=
  (Text.pieces isLineEnd text).filterMap assignment?

theorem assigned_line {line : List Char} (inLine : InLine line) :
    assigned line = (assignment? line).toList := by
  have whole : Text.pieces isLineEnd line = [line] :=
    Text.pieces_of_free fun c member => (isLineEnd_eq_false_iff c).2 (inLine c member)
  rw [assigned, whole]
  cases found : assignment? line <;> simp [found]

/-- **A line end parts a text.** -/
theorem assigned_append_cons {c : Char} (ends : isLineEnd c = true) (front back : List Char) :
    assigned (front ++ c :: back) = assigned front ++ assigned back := by
  rw [assigned, Text.pieces_append_mark ends, List.filterMap_append]
  rfl

theorem assigned_append_ending {ending : List Char} (ends : Ending ending) (front back : List Char) :
    assigned (front ++ ending ++ back) = assigned front ++ assigned back := by
  rw [List.append_assoc]
  cases ends with
  | lineFeed => exact assigned_append_cons rfl front back
  | carriageReturn => exact assigned_append_cons rfl front back
  | both =>
      have empty : assigned ('\n' :: back) = assigned back := assigned_append_cons rfl [] back
      exact (assigned_append_cons rfl front ('\n' :: back)).trans (by rw [empty])

/-- A text whose last line is ended, or that has no line, is parted from what follows it. -/
theorem assigned_append_of_ended {front : List Char}
    (ended : ∀ c, front.getLast? = some c → c = '\r' ∨ c = '\n') (back : List Char) :
    assigned (front ++ back) = assigned front ++ assigned back := by
  rcases List.eq_nil_or_concat front with rfl | ⟨lines, c, rfl⟩
  · rfl
  · rw [List.concat_eq_append] at *
    have ends : isLineEnd c = true := (isLineEnd_iff c).2 (ended c (by simp))
    have whole := assigned_append_cons ends lines []
    have empty : assigned [] = [] := rfl
    rw [empty, List.append_nil] at whole
    rw [List.append_assoc, whole]
    exact assigned_append_cons ends lines back

/-- **A text is read as what its lines say.** -/
theorem Written.assigned_eq {text : List Char} {row : List (Field × String)}
    (written : Written text row) : assigned text = row.map readOne := by
  induction written with
  | last means => rw [assigned_line means.inLine, means.toList_assignment?]
  | cons means ends after ih =>
      rw [assigned_append_ending ends, ih, assigned_line means.inLine, means.toList_assignment?,
        List.map_append]

/-! ## Rows of enclosures -/

/-- The three assignments of an enclosure. -/
def toRow (enclosure : Enclosure) : List (Field × String) :=
  [(.url, enclosure.url), (.length, enclosure.length), (.mediaType, enclosure.mediaType)]

/-- Assignments that stand for enclosures, three for each, in any order within an enclosure. -/
inductive Listed : List (Field × String) → List Enclosure → Prop where
  | nil : Listed [] []
  | cons {run rest : List (Field × String)} {enclosure : Enclosure} {more : List Enclosure}
      (order : run.Perm enclosure.toRow) (after : Listed rest more) :
      Listed (run ++ rest) (enclosure :: more)

theorem mem_toRow (enclosure : Enclosure) (field : Field) :
    (field, enclosure.value field) ∈ enclosure.toRow := by
  cases field <;> simp [toRow, value]

theorem eq_value_of_mem_toRow {enclosure : Enclosure} {field : Field} {value : String}
    (member : (field, value) ∈ enclosure.toRow) : value = enclosure.value field := by
  simp only [toRow, List.mem_cons, List.not_mem_nil, or_false, Prod.mk.injEq] at member
  rcases member with ⟨rfl, rfl⟩ | ⟨rfl, rfl⟩ | ⟨rfl, rfl⟩ <;> rfl

/-- No fewer than three assignments cover the fields. -/
theorem Covers.three_le {run : List (Field × String)} (covers : Covers run) : 3 ≤ run.length := by
  have fields : [Field.url, .length, .mediaType] ⊆ run.map Prod.fst := by
    intro field _
    obtain ⟨value, member⟩ := covers field
    exact List.mem_map.2 ⟨_, member, rfl⟩
  have distinct : [Field.url, .length, .mediaType].Nodup := by decide
  have shorter := (distinct.subperm fields).length_le
  rwa [List.length_map] at shorter

/-- Where no field is assigned twice, every assignment is the last to its field. -/
theorem lastValue_of_mem {run : List (Field × String)} (distinct : (run.map Prod.fst).Nodup)
    {field : Field} {value : String} (member : (field, value) ∈ run) :
    LastValue run field value := by
  obtain ⟨before, after, rfl⟩ := List.append_of_mem member
  refine ⟨before, after, rfl, ?_⟩
  intro later behind same
  rw [List.map_append, List.map_cons, List.nodup_append] at distinct
  exact (List.nodup_cons.1 distinct.2.1).1 (List.mem_map.2 ⟨later, behind, same⟩)

/-- **Three assignments in any order make their enclosure,** and what follows is left alone. -/
theorem Listed.segmented {row rest : List (Field × String)} {records : List Enclosure}
    (listed : Listed row records) (lacking : ¬ Covers rest) : Segmented (row ++ rest) records := by
  induction listed with
  | nil => exact .stop lacking
  | @cons run later enclosure more order after ih =>
      have member (field : Field) : (field, enclosure.value field) ∈ run :=
        order.mem_iff.2 (enclosure.mem_toRow field)
      have distinct : (run.map Prod.fst).Nodup := by
        rw [(order.map Prod.fst).nodup_iff]
        show [Field.url, .length, .mediaType].Nodup
        decide
      rw [List.append_assoc]
      refine .cut (fun field => ⟨_, member field⟩) ?_
        (fun field => lastValue_of_mem distinct (member field)) ih
      intro shorter within covers
      apply within.eq_of_length_le
      rw [order.length_eq]
      exact covers.three_le

/-! ## Blocks -/

/-- A value that a line can hold as it is: there is no line end in it, and no blank at its end. -/
def Holdable (value : String) : Prop :=
  InLine value.toList ∧ ∀ c, value.toList.getLast? = some c → Text.isBlank c = false

theorem readValue_of_holdable {value : String} (holdable : Holdable value) :
    readValue value = value := by
  rw [readValue, (Text.trimBack_eq_self_iff value.toList).2 holdable.2, String.ofList_toList]

/-- Values that can be held are read as they are. -/
theorem Listed.map_readOne {row : List (Field × String)} {records : List Enclosure}
    (listed : Listed row records)
    (holdable : ∀ enclosure ∈ records, ∀ field, Holdable (enclosure.value field)) :
    row.map readOne = row := by
  induction listed with
  | nil => rfl
  | @cons run later enclosure more order after ih =>
      obtain ⟨here, others⟩ := List.forall_mem_cons.1 holdable
      have kept : ∀ one ∈ run, readOne one = one := by
        rintro ⟨field, value⟩ member
        obtain rfl := eq_value_of_mem_toRow (order.mem_iff.1 member)
        rw [readOne, readValue_of_holdable (here field)]
      rw [List.map_append, ih others, List.map_congr_left kept, List.map_id']

theorem listOfBlock_of_assigned {block : String} {row rest : List (Field × String)}
    {records : List Enclosure} (read : assigned block.toList = row ++ rest)
    (listed : Listed row records) (lacking : ¬ Covers rest) : listOfBlock block = records := by
  have segmented : Segmented (row ++ rest) (listOfBlock block) := by
    rw [← read]
    exact segmented_assignments block
  exact segmented.unique (listed.segmented lacking)

theorem not_covers_map_readOne {rest : List (Field × String)}
    (lacking : ∃ field, ∀ value, (field, value) ∉ rest) : ¬ Covers (rest.map readOne) := by
  obtain ⟨field, missing⟩ := lacking
  intro covers
  obtain ⟨value, member⟩ := covers field
  obtain ⟨⟨other, written⟩, among, same⟩ := List.mem_map.1 member
  cases same
  exact missing written among

/-- **A block lists what was written into it.**  Whatever the order of the fields within each
enclosure, the blanks around the lines, the way in which lines are ended and the lines in
between that say nothing, the enclosures are those that were written, if their values can be
held by lines.  Lines that are added to a block and lack a field among them change nothing. -/
theorem listOfBlock_written {records : List Enclosure}
    (holdable : ∀ enclosure ∈ records, ∀ field, Holdable (enclosure.value field))
    {block : String} {row : List (Field × String)} (listed : Listed row records)
    (written : Written block.toList row) :
    listOfBlock block = records ∧
    ∀ (tail : String) (rest : List (Field × String)), Written tail.toList rest →
      (∃ field, ∀ value, (field, value) ∉ rest) →
      (∀ ending : String, Ending ending.toList → listOfBlock (block ++ ending ++ tail) = records) ∧
      ((∀ c, block.toList.getLast? = some c → c = '\r' ∨ c = '\n') →
        listOfBlock (block ++ tail) = records) := by
  have read : assigned block.toList = row := by
    rw [written.assigned_eq, listed.map_readOne holdable]
  constructor
  · have none_ : ¬ Covers [] := by
      intro covers
      obtain ⟨_, member⟩ := covers .url
      cases member
    apply listOfBlock_of_assigned _ listed none_
    rw [read, List.append_nil]
  · intro tail rest added lacking
    have more : assigned tail.toList = rest.map readOne := added.assigned_eq
    have incomplete := not_covers_map_readOne lacking
    constructor
    · intro ending ends
      apply listOfBlock_of_assigned _ listed incomplete
      rw [String.toList_append, String.toList_append, assigned_append_ending ends, read, more]
    · intro ended
      apply listOfBlock_of_assigned _ listed incomplete
      rw [String.toList_append, assigned_append_of_ended ended, read, more]

/-- Three lines in an order of their own, ended in three ways and not at all, a line between them
whose key is not spelled exactly, and a value that begins with a blank and has an equals sign. -/
theorem listOfBlock_written_mixed :
    (∀ enclosure ∈ [(⟨" a=b", "", "t"⟩ : Enclosure)], ∀ field, Holdable (enclosure.value field)) ∧
    Listed [(.mediaType, "t"), (.url, " a=b"), (.length, "")] [⟨" a=b", "", "t"⟩] ∧
    Written "type=t \r\nURL=x\rurl= a=b\n length=".toList
      [(.mediaType, "t"), (.url, " a=b"), (.length, "")] ∧
    listOfBlock "type=t \r\nURL=x\rurl= a=b\n length=" = [⟨" a=b", "", "t"⟩] ∧
    listOfBlock ("type=t \r\nURL=x\rurl= a=b\n length=" ++ "\n" ++ "url=z") = [⟨" a=b", "", "t"⟩] := by
  have holdable : ∀ enclosure ∈ [(⟨" a=b", "", "t"⟩ : Enclosure)], ∀ field,
      Holdable (enclosure.value field) := by
    intro enclosure member field
    obtain rfl := List.mem_singleton.1 member
    cases field with
    | url => exact ⟨by decide, by intro c last; obtain rfl := Option.some.inj last; decide⟩
    | length => exact ⟨by decide, by intro c never; exact absurd never.symm (Option.some_ne_none c)⟩
    | mediaType => exact ⟨by decide, by intro c last; obtain rfl := Option.some.inj last; decide⟩
  have listed : Listed ([(.mediaType, "t"), (.url, " a=b"), (.length, "")] ++ [])
      [⟨" a=b", "", "t"⟩] := .cons (by decide) .nil
  have kind : Means "type=t ".toList [(.mediaType, "t")] :=
    @Means.value [] [' '] .mediaType "t" (by decide) (by decide) (by decide)
  have other : Means "URL=x".toList [] :=
    .nothing (@Silent.unknown [] "URL".toList ['x'] (by decide) (by decide)
      (by intro c first; obtain rfl := Option.some.inj first; decide) (by decide)
      (by intro field; cases field <;> decide))
  have address : Means "url= a=b".toList [(.url, " a=b")] :=
    @Means.value [] [] .url " a=b" (by decide) (by decide) (by decide)
  have size : Means " length=".toList [(.length, "")] :=
    @Means.value [' '] [] .length "" (by decide) (by decide) (by decide)
  have written : Written "type=t \r\nURL=x\rurl= a=b\n length=".toList
      [(.mediaType, "t"), (.url, " a=b"), (.length, "")] :=
    .cons kind .both (.cons other .carriageReturn (.cons address .lineFeed (.last size)))
  have added : Written "url=z".toList [(.url, "z")] :=
    .last (@Means.value [] [] .url "z" (by decide) (by decide) (by decide))
  obtain ⟨reads, grows⟩ := listOfBlock_written holdable listed written
  obtain ⟨ended, -⟩ := grows "url=z" [(.url, "z")] added ⟨.length, by simp⟩
  exact ⟨holdable, listed, written, reads, ended "\n" .lineFeed⟩

end Enclosure

end GeoFeed
