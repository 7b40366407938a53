/-
# GeoFeed.Proofs.Enclosure.Segmentation -- which lines make an enclosure

What a block lists is said here without a draft.  Its lines end at every carriage return
and every line feed (`HasLines`), and a line counts when, without the blanks around it,
it is the name of a field, an equals sign and a value (`Recognised`).  The assignments so
found are cut into runs, each the shortest that assigns all three fields, and a run makes
one enclosure of the last values in it; a remainder that lacks a field makes none
(`Segmented`).

The collector keeps a draft instead.  Its invariant: the draft holds, for each field, the
last value since the last enclosure was completed (`Draft.get_ofRun`), and what has been
assigned since then does not cover the fields.  So the assignment that completes a draft
is the one that ends the shortest run, and the collector gives the one segmentation that
there is (`Segmented.unique`).

Main statement: `listOfBlock_segmentation`.
-/
import GeoFeed.Enclosure
import Mathlib.Data.List.Induction
import Mathlib.Tactic.Choose

namespace GeoFeed.Enclosure

set_option autoImplicit false

/-! ## The lines of a block -/

/-- A text and its lines: each carriage return and each line feed ends one, and what is
left after the last of them is a line too. -/
inductive HasLines : List Char → List (List Char) → Prop where
  | last {line : List Char} (free : ∀ c ∈ line, c ≠ '\r' ∧ c ≠ '\n') : HasLines line [line]
  | cut {line text : List Char} {lines : List (List Char)} {c : Char}
      (free : ∀ c ∈ line, c ≠ '\r' ∧ c ≠ '\n') (ends : c = '\r' ∨ c = '\n')
      (after : HasLines text lines) : HasLines (line ++ c :: text) (line :: lines)

theorem isLineEnd_iff (c : Char) : isLineEnd c = true ↔ c = '\r' ∨ c = '\n' := by
  simp [isLineEnd]

theorem isLineEnd_eq_false_iff (c : Char) : isLineEnd c = false ↔ c ≠ '\r' ∧ c ≠ '\n' := by
  rw [← Bool.not_eq_true, isLineEnd_iff, not_or]

theorem HasLines.cons {line text : List Char} {lines : List (List Char)} {c : Char}
    (inside : c ≠ '\r' ∧ c ≠ '\n') (parted : HasLines text (line :: lines)) :
    HasLines (c :: text) ((c :: line) :: lines) := by
  have free : ∀ {line : List Char}, (∀ d ∈ line, d ≠ '\r' ∧ d ≠ '\n') →
      ∀ d ∈ c :: line, d ≠ '\r' ∧ d ≠ '\n' := by
    intro line free d member
    rcases List.mem_cons.1 member with rfl | member
    · exact inside
    · exact free d member
  cases parted with
  | last rest => exact .last (free rest)
  | cut rest ends after => exact .cut (free rest) ends after

theorem hasLines_pieces (text : List Char) : HasLines text (Text.pieces isLineEnd text) := by
  induction text with
  | nil => exact .last (by simp)
  | cons c rest ih =>
      simp only [Text.pieces]
      split
      · rename_i ends
        have parted : HasLines ([] ++ c :: rest) ([] :: Text.pieces isLineEnd rest) :=
          .cut (by simp) ((isLineEnd_iff c).1 ends) ih
        exact parted
      · rename_i inside
        have inside := (isLineEnd_eq_false_iff c).1 (Bool.eq_false_iff.2 inside)
        split
        · rename_i empty
          exact absurd empty (Text.pieces_ne_nil _ _)
        · rename_i first more shape
          rw [shape] at ih
          exact ih.cons inside

theorem hasLines_iff {text : List Char} {lines : List (List Char)} :
    HasLines text lines ↔ Text.pieces isLineEnd text = lines := by
  constructor
  · intro parted
    induction parted with
    | last free =>
        exact Text.pieces_of_free fun c member => (isLineEnd_eq_false_iff c).2 (free c member)
    | cut free ends after ih =>
        rw [Text.pieces_append_cons (fun c member => (isLineEnd_eq_false_iff c).2 (free c member))
          ((isLineEnd_iff _).2 ends), ih]
  · rintro rfl
    exact hasLines_pieces text

/-! ## What the lines assign -/

/-- How the field is named in a block. -/
def Field.name : Field → String
  | .url => "url"
  | .length => "length"
  | .mediaType => "type"

/-- Without the blanks around it, the line is the name of the field, an equals sign and the
value.  No name has an equals sign, so the first one in the line ends the name. -/
def Spells (line : List Char) (field : Field) (value : String) : Prop :=
  Text.trimChars line = field.name.toList ++ '=' :: value.toList

/-- Lines and the assignments that they spell, in order; other lines count for nothing. -/
inductive Recognised : List (List Char) → List (Field × String) → Prop where
  | nil : Recognised [] []
  | keep {line : List Char} {field : Field} {value : String} {lines : List (List Char)}
      {row : List (Field × String)} (spelled : Spells line field value)
      (after : Recognised lines row) : Recognised (line :: lines) ((field, value) :: row)
  | pass {line : List Char} {lines : List (List Char)} {row : List (Field × String)}
      (other : ∀ field value, ¬ Spells line field value) (after : Recognised lines row) :
      Recognised (line :: lines) row

theorem Field.equals_not_mem_name (field : Field) : '=' ∉ field.name.toList := by
  cases field <;> decide

theorem Field.ofName?_eq_some_iff {name : List Char} {field : Field} :
    Field.ofName? name = some field ↔ name = field.name.toList := by
  constructor
  · intro found
    simp only [Field.ofName?] at found
    split at found
    · rename_i same
      cases found
      exact same
    · split at found
      · rename_i same
        cases found
        exact same
      · split at found
        · rename_i same
          cases found
          exact same
        · cases found
  · rintro rfl
    cases field <;> decide

/-- **A line assigns a value to a field exactly if it spells that.** -/
theorem assignment?_eq_some_iff {line : List Char} {field : Field} {value : String} :
    assignment? line = some (field, value) ↔ Spells line field value := by
  simp only [assignment?, Option.bind_eq_bind, Option.bind_eq_some_iff, Prod.exists, Option.pure_def,
    Option.some.injEq, Prod.mk.injEq, Text.cut?_eq_some_iff, Field.ofName?_eq_some_iff]
  constructor
  · rintro ⟨name, chars, ⟨parted, -⟩, found, rfl, rfl, rfl⟩
    rw [Spells, parted, String.toList_ofList]
  · intro spelled
    exact ⟨field.name.toList, value.toList, ⟨spelled, field.equals_not_mem_name⟩, field, rfl, rfl,
      String.ofList_toList⟩

theorem recognised_iff {lines : List (List Char)} {row : List (Field × String)} :
    Recognised lines row ↔ lines.filterMap assignment? = row := by
  constructor
  · intro recognised
    induction recognised with
    | nil => rfl
    | keep spelled after ih =>
        rw [List.filterMap_cons_some (assignment?_eq_some_iff.2 spelled), ih]
    | pass other after ih =>
        rw [List.filterMap_cons_none, ih]
        rw [Option.eq_none_iff_forall_ne_some]
        rintro ⟨field, value⟩ found
        exact other field value (assignment?_eq_some_iff.1 found)
  · rintro rfl
    induction lines with
    | nil => exact .nil
    | cons line lines ih =>
        cases found : assignment? line with
        | none =>
            rw [List.filterMap_cons_none found]
            apply Recognised.pass _ ih
            intro field value spelled
            rw [assignment?_eq_some_iff.2 spelled] at found
            cases found
        | some assigned =>
            obtain ⟨field, value⟩ := assigned
            rw [List.filterMap_cons_some found]
            exact .keep (assignment?_eq_some_iff.1 found) ih

/-! ## Runs that cover the fields -/

/-- All three fields are assigned. -/
def Covers (run : List (Field × String)) : Prop :=
  ∀ field, ∃ value, (field, value) ∈ run

/-- The value that is assigned to a field last. -/
def LastValue (run : List (Field × String)) (field : Field) (value : String) : Prop :=
  ∃ before after, run = before ++ (field, value) :: after ∧ ∀ later ∈ after, later.1 ≠ field

/-- The value of a field. -/
def value (enclosure : Enclosure) : Field → String
  | .url => enclosure.url
  | .length => enclosure.length
  | .mediaType => enclosure.mediaType

/-- Assignments and the enclosures that they make: the shortest run that covers the fields
is cut off and makes one of its last values, and so on until what is left does not cover
the fields. -/
inductive Segmented : List (Field × String) → List Enclosure → Prop where
  | stop {rest : List (Field × String)} (lacking : ¬ Covers rest) : Segmented rest []
  | cut {run rest : List (Field × String)} {enclosure : Enclosure} {more : List Enclosure}
      (covers : Covers run) (shortest : ∀ shorter, shorter <+: run → Covers shorter → shorter = run)
      (last : ∀ field, LastValue run field (enclosure.value field))
      (after : Segmented rest more) : Segmented (run ++ rest) (enclosure :: more)

theorem Covers.of_prefix {run longer : List (Field × String)} (covers : Covers run)
    (within : run <+: longer) : Covers longer := by
  intro field
  obtain ⟨value, member⟩ := covers field
  exact ⟨value, within.subset member⟩

theorem LastValue.mem {run : List (Field × String)} {field : Field} {value : String}
    (last : LastValue run field value) : (field, value) ∈ run := by
  obtain ⟨before, after, rfl, -⟩ := last
  simp

/-- An assignment at the end is the last to its field and leaves the other fields alone. -/
theorem lastValue_append_singleton {run : List (Field × String)} {assigned field : Field}
    {new value : String} :
    LastValue (run ++ [(assigned, new)]) field value ↔
      if assigned = field then new = value else LastValue run field value := by
  constructor
  · rintro ⟨before, after, parted, free⟩
    rcases List.eq_nil_or_concat after with rfl | ⟨after, final, rfl⟩
    · obtain ⟨rfl, same⟩ := List.append_inj' parted rfl
      cases same
      rw [if_pos rfl]
    · rw [List.concat_eq_append, ← List.cons_append, ← List.append_assoc] at parted
      obtain ⟨rfl, same⟩ := List.append_inj' parted rfl
      cases same
      have other : assigned ≠ field := free (assigned, new) (by simp)
      rw [if_neg other]
      exact ⟨before, after, rfl, fun later member => free later (by simp [member])⟩
  · intro last
    split at last
    · rename_i same
      subst same last
      exact ⟨run, [], rfl, by simp⟩
    · rename_i other
      obtain ⟨before, after, rfl, free⟩ := last
      refine ⟨before, after ++ [(assigned, new)], by simp, ?_⟩
      intro later member
      rcases List.mem_append.1 member with member | member
      · exact free later member
      · rw [List.mem_singleton.1 member]
        exact other

theorem LastValue.unique {run : List (Field × String)} {field : Field} {value value' : String}
    (last : LastValue run field value) (last' : LastValue run field value') : value = value' := by
  induction run using List.reverseRecOn with
  | nil => simpa using last.mem
  | append_singleton run assigned ih =>
      rw [lastValue_append_singleton] at last last'
      split at last
      · rename_i same
        rw [if_pos same] at last'
        exact last.symm.trans last'
      · rename_i other
        rw [if_neg other] at last'
        exact ih last last'

/-- Of two runs at the front of one row, each the shortest that covers the fields, neither
is the longer. -/
theorem shortest_unique {run run' rest rest' : List (Field × String)} (covers : Covers run)
    (covers' : Covers run') (same : run ++ rest = run' ++ rest')
    (shortest : ∀ shorter, shorter <+: run → Covers shorter → shorter = run)
    (shortest' : ∀ shorter, shorter <+: run' → Covers shorter → shorter = run') :
    run = run' := by
  have front : run <+: run' ++ rest' := same ▸ List.prefix_append run rest
  rcases List.prefix_or_prefix_of_prefix front (List.prefix_append run' rest') with within | within
  · exact shortest' run within covers
  · exact (shortest run' within covers').symm

/-- **Assignments are segmented in one way.** -/
theorem Segmented.unique {row : List (Field × String)} {made made' : List Enclosure}
    (segmented : Segmented row made) (segmented' : Segmented row made') : made = made' := by
  induction segmented generalizing made' with
  | stop lacking =>
      cases segmented' with
      | stop => rfl
      | cut covers => exact absurd (covers.of_prefix (List.prefix_append _ _)) lacking
  | @cut run rest enclosure more covers shortest last after ih =>
      generalize whole : run ++ rest = row at segmented'
      cases segmented' with
      | stop lacking =>
          subst whole
          exact absurd (covers.of_prefix (List.prefix_append _ _)) lacking
      | cut covers' shortest' last' after' =>
          obtain rfl := shortest_unique covers covers' whole shortest shortest'
          obtain rfl := List.append_cancel_left whole
          rename_i enclosure' _
          have values : ∀ field, enclosure.value field = enclosure'.value field :=
            fun field => (last field).unique (last' field)
          have same : enclosure = enclosure' := by
            cases enclosure
            cases enclosure'
            have urls := values .url
            have lengths := values .length
            have types := values .mediaType
            simp_all [value]
          rw [same, ih after']

/-! ## The draft -/

namespace Draft

/-- The value of a field in a draft. -/
def get (d : Draft) : Field → Option String
  | .url => d.url
  | .length => d.length
  | .mediaType => d.mediaType

/-- What a row of assignments leaves of an empty draft. -/
def ofRun (run : List (Field × String)) : Draft :=
  run.foldl (fun d (field, value) => d.set field value) {}

theorem ofRun_append_singleton (run : List (Field × String)) (field : Field) (value : String) :
    ofRun (run ++ [(field, value)]) = (ofRun run).set field value := by
  simp [ofRun]

theorem get_set (d : Draft) (assigned field : Field) (value : String) :
    (d.set assigned value).get field = if assigned = field then some value else d.get field := by
  cases assigned <;> cases field <;> rfl

/-- **A draft holds the last values.** -/
theorem get_ofRun {run : List (Field × String)} {field : Field} {value : String} :
    (ofRun run).get field = some value ↔ LastValue run field value := by
  induction run using List.reverseRecOn with
  | nil =>
      constructor
      · intro held
        cases field <;> cases held
      · intro last
        simpa using last.mem
  | append_singleton run assigned ih =>
      obtain ⟨assigned, new⟩ := assigned
      rw [ofRun_append_singleton, get_set, lastValue_append_singleton]
      by_cases same : assigned = field
      · rw [if_pos same, if_pos same, Option.some.injEq]
      · rw [if_neg same, if_neg same, ih]

/-- A field that is assigned at all has a value in the draft. -/
theorem exists_get_ofRun {run : List (Field × String)} {field : Field} {value : String}
    (member : (field, value) ∈ run) : ∃ last, (ofRun run).get field = some last := by
  induction run using List.reverseRecOn with
  | nil => cases member
  | append_singleton run assigned ih =>
      obtain ⟨assigned, new⟩ := assigned
      rw [ofRun_append_singleton, get_set]
      split
      · exact ⟨new, rfl⟩
      · rename_i other
        rcases List.mem_append.1 member with member | member
        · exact ih member
        · cases List.mem_singleton.1 member
          exact absurd rfl other

theorem complete?_eq_some_iff {d : Draft} {enclosure : Enclosure} :
    d.complete? = some enclosure ↔ ∀ field, d.get field = some (enclosure.value field) := by
  obtain ⟨url, length, mediaType⟩ := d
  obtain ⟨url', length', mediaType'⟩ := enclosure
  constructor
  · intro completed field
    cases url <;> cases length <;> cases mediaType <;> cases completed
    cases field <;> rfl
  · intro held
    have urls := held .url
    have lengths := held .length
    have types := held .mediaType
    simp only [get, value] at urls lengths types
    subst urls lengths types
    rfl

/-- **A draft is complete when the assignments since it was empty cover the fields.** -/
theorem complete?_ofRun_eq_none_iff {run : List (Field × String)} :
    (ofRun run).complete? = none ↔ ¬ Covers run := by
  constructor
  · intro open_ covers
    have held : ∀ field, ∃ value, (ofRun run).get field = some value := by
      intro field
      obtain ⟨_, member⟩ := covers field
      exact exists_get_ofRun member
    obtain ⟨url, urls⟩ := held .url
    obtain ⟨length, lengths⟩ := held .length
    obtain ⟨mediaType, types⟩ := held .mediaType
    have completed : (ofRun run).complete? = some ⟨url, length, mediaType⟩ :=
      complete?_eq_some_iff.2 fun field => by cases field <;> assumption
    rw [completed] at open_
    cases open_
  · intro lacking
    rw [Option.eq_none_iff_forall_ne_some]
    intro enclosure completed
    apply lacking
    intro field
    exact ⟨_, (get_ofRun.1 (complete?_eq_some_iff.1 completed field)).mem⟩

end Draft

/-! ## The collector -/

/-- With a draft that is not complete, the collector segments what was assigned since the
draft was empty together with what follows. -/
theorem segmented_collect (row : List (Field × String)) :
    ∀ run, ¬ Covers run → Segmented (run ++ row) (collect (.ofRun run) row) := by
  induction row with
  | nil =>
      intro run lacking
      rw [List.append_nil]
      exact .stop lacking
  | cons assigned rest ih =>
      obtain ⟨field, value⟩ := assigned
      intro run lacking
      have longer : run ++ (field, value) :: rest = (run ++ [(field, value)]) ++ rest := by simp
      simp only [collect, longer, ← Draft.ofRun_append_singleton]
      split
      · rename_i enclosure completed
        have last : ∀ field, LastValue (run ++ [(_, value)]) field (enclosure.value field) :=
          fun field => Draft.get_ofRun.1 (Draft.complete?_eq_some_iff.1 completed field)
        refine .cut (fun field => ⟨_, (last field).mem⟩) ?_ last (ih [] ?_)
        · intro shorter within covers
          rcases List.prefix_concat_iff.1 within with whole | within
          · exact whole
          · exact absurd (covers.of_prefix within) lacking
        · intro covers
          obtain ⟨_, member⟩ := covers .url
          cases member
      · rename_i open_
        exact ih _ (Draft.complete?_ofRun_eq_none_iff.1 open_)

theorem segmented_assignments (block : String) :
    Segmented (assignments block) (listOfBlock block) := by
  apply segmented_collect (assignments block) []
  intro covers
  obtain ⟨_, member⟩ := covers .url
  cases member

/-- The values of an enclosure stand at places of its own, which come before the places of
all later enclosures. -/
theorem Segmented.exists_places {row : List (Field × String)} {made : List Enclosure}
    (segmented : Segmented row made) :
    ∃ place : Nat → Field → Nat,
      (∀ i enclosure, made[i]? = some enclosure →
        ∀ field, row[place i field]? = some (field, enclosure.value field)) ∧
      ∀ i j, i < j → j < made.length → ∀ field field', place i field < place j field' := by
  induction segmented with
  | stop => exact ⟨fun _ _ => 0, by simp, by simp⟩
  | @cut run rest enclosure more covers shortest last after ih =>
      obtain ⟨place, found, ordered⟩ := ih
      choose before later parted free using last
      -- what an enclosure takes from its run lies within the run, and the rest comes after it
      have inside : ∀ field, (before field).length < run.length := by
        intro field
        rw [parted field]
        simp
      refine ⟨fun i field =>
        if i = 0 then (before field).length else run.length + place (i - 1) field, ?_, ?_⟩
      · intro i made here field
        cases i with
        | zero =>
            cases here
            show (run ++ rest)[(before field).length]? = _
            rw [List.getElem?_append_left (inside field)]
            conv_lhs => rw [parted field]
            simp
        | succ i =>
            show (run ++ rest)[run.length + place i field]? = _
            rw [List.getElem?_append_right (by simp)]
            simpa using found i made here field
      · intro i j order short field field'
        cases j with
        | zero => omega
        | succ j =>
            cases i with
            | zero =>
                have := inside field
                show (before field).length < run.length + place j field'
                omega
            | succ i =>
                have := ordered i j (by omega) (by simpa using short) field field'
                show run.length + place i field < run.length + place j field'
                omega

/-- **A block is segmented greedily.**  The enclosures that it lists are those that its lines
make when the shortest run of recognised lines with all three fields is cut off again and
again, each run giving one enclosure with the last values in it.  Each value comes from a
line of its own, and the lines of one enclosure all come before those of the next. -/
theorem listOfBlock_segmentation (block : String) :
    (∀ made, listOfBlock block = made ↔
      ∃ lines row, HasLines block.toList lines ∧ Recognised lines row ∧ Segmented row made) ∧
    ∃ lines row, HasLines block.toList lines ∧ Recognised lines row ∧
      ∃ place : Nat → Field → Nat,
        (∀ i enclosure, (listOfBlock block)[i]? = some enclosure →
          ∀ field, row[place i field]? = some (field, enclosure.value field)) ∧
        ∀ i j, i < j → j < (listOfBlock block).length →
          ∀ field field', place i field < place j field' := by
  have lines : HasLines block.toList (Text.pieces isLineEnd block.toList) :=
    hasLines_pieces block.toList
  have row : Recognised (Text.pieces isLineEnd block.toList) (assignments block) :=
    recognised_iff.2 rfl
  constructor
  · intro made
    constructor
    · rintro rfl
      exact ⟨_, _, lines, row, segmented_assignments block⟩
    · rintro ⟨lines', row', parted, recognised, segmented⟩
      obtain rfl := hasLines_iff.1 parted
      obtain rfl := recognised_iff.1 recognised
      exact (segmented_assignments block).unique segmented
  · exact ⟨_, _, lines, row, (segmented_assignments block).exists_places⟩

/-- A length before the first enclosure is complete belongs to it, and one behind it to the
next. -/
example : listOfBlock "length=1\r\n url=a=b \rlength=2\nnote=x\ntype=t\nlength=3\nurl=c\n"
    = [⟨"a=b", "2", "t"⟩] := by
  decide +kernel

end GeoFeed.Enclosure
