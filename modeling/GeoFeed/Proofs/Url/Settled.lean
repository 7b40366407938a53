/-
# GeoFeed.Proofs.Url.Settled -- paths that are read again

A path is read from its text, and the path of a base is read a second time when a slash is
added to it.  So what has been read must be a text that reads as itself.  It nearly is.
Each segment is settled (`IsSegment`): percent-encoding leaves it alone, no slash is in it,
and it does not stand for dots, not even for dots that are percent-encoded
(`eq_of_decodeDots_percentEncode`: what encoding adds never decodes to a dot).  In a file
no empty segment is at the front.

What is not settled is a drive letter.  Only the first segment of a file is taken for one,
and the empty segments at the front are dropped after that; so a letter with a bar behind
empty segments comes to the front as it is, and is written with a colon when it is read
again (`withColon`).

Main statements: `ofText_settled` and `read_of_settled`.
-/
import GeoFeed.Proofs.Url.Visible

namespace GeoFeed.Url

set_option autoImplicit false

/-! ## Encoded texts -/

/-- What an encoded text consists of. -/
theorem mem_percentEncode {set : Char → Bool} {cs : List Char} {c : Char}
    (member : c ∈ percentEncode set cs) :
    (c ∈ cs ∧ c.toNat < 128 ∧ set c = false) ∨ c = '%' ∨ ∃ n < 16, c = Text.figure n := by
  obtain ⟨d, inside, found⟩ := List.mem_flatMap.1 member
  split at found
  · rename_i alone
    obtain rfl := List.mem_singleton.1 found
    simp only [Bool.and_eq_true, decide_eq_true_eq, Bool.not_eq_true'] at alone
    exact .inl ⟨inside, alone⟩
  · obtain ⟨b, -, among⟩ := List.mem_flatMap.1 found
    have small := b.toNat_lt
    simp only [encodeByte, List.mem_cons, List.not_mem_nil, or_false] at among
    rcases among with rfl | rfl | rfl
    · exact .inr (.inl rfl)
    · exact .inr (.inr ⟨_, by omega, rfl⟩)
    · exact .inr (.inr ⟨_, by omega, rfl⟩)

theorem percentEncode_cons_kept {set : Char → Bool} {c : Char} (ascii : c.toNat < 128)
    (outside : set c = false) (rest : List Char) :
    percentEncode set (c :: rest) = c :: percentEncode set rest := by
  simp [percentEncode, ascii, outside]

/-- A text without anything to encode is left alone. -/
theorem percentEncode_eq_self {set : Char → Bool} {cs : List Char}
    (ascii : ∀ c ∈ cs, c.toNat < 128) (outside : ∀ c ∈ cs, set c = false) :
    percentEncode set cs = cs := by
  induction cs with
  | nil => rfl
  | cons c rest ih =>
      obtain ⟨small, others⟩ := List.forall_mem_cons.1 ascii
      obtain ⟨free, more⟩ := List.forall_mem_cons.1 outside
      rw [percentEncode_cons_kept small free, ih others more]

/-- The first byte of a character that is not a point. -/
theorem utf8EncodeChar_cons {c : Char} (other : c ≠ '.') :
    ∃ b bytes, String.utf8EncodeChar c = b :: bytes ∧ b.toNat ≠ 0x2E := by
  have ne : c.val.toNat ≠ 0x2E := by
    intro same
    exact other (Char.toNat_inj.1 same)
  unfold String.utf8EncodeChar
  simp only
  split
  · refine ⟨_, _, rfl, ?_⟩
    rw [UInt8.toNat_ofNat']
    omega
  · split
    · refine ⟨_, _, rfl, ?_⟩
      rw [UInt8.toNat_ofNat']
      omega
    · split
      · refine ⟨_, _, rfl, ?_⟩
        rw [UInt8.toNat_ofNat']
        omega
      · refine ⟨_, _, rfl, ?_⟩
        rw [UInt8.toNat_ofNat']
        omega

/-- Only the code of a point is written `2E`. -/
theorem eq_of_figures {n : Nat} (small : n < 256) (high : Text.figure (n / 16) = '2')
    (low : Text.figure (n % 16) = 'e' ∨ Text.figure (n % 16) = 'E') : n = 0x2E := by
  have all : ∀ m ∈ List.range 256, Text.figure (m / 16) = '2' →
      (Text.figure (m % 16) = 'e' ∨ Text.figure (m % 16) = 'E') → m = 0x2E := by decide +kernel
  exact all n (List.mem_range.2 small) high low

/-! ## Dots -/

theorem decodeDots_cons {c : Char} (other : c ≠ '%') (rest : List Char) :
    decodeDots (c :: rest) = c :: decodeDots rest := by
  rw [decodeDots]
  · rintro _ rfl
    exact absurd rfl other
  · rintro _ rfl
    exact absurd rfl other

/-- An encoded character does not begin with a dot, even when dots are decoded. -/
theorem head?_decodeDots_encodeBytes {c : Char} (other : c ≠ '.') (rest : List Char) :
    (decodeDots (encodeBytes c ++ rest)).head? = some '%' := by
  obtain ⟨b, bytes, spelled, ne⟩ := utf8EncodeChar_cons other
  have small := b.toNat_lt
  have shown : encodeBytes c ++ rest = '%' :: Text.figure (b.toNat / 16)
      :: Text.figure (b.toNat % 16) :: (bytes.flatMap encodeByte ++ rest) := by
    simp [encodeBytes, spelled, encodeByte]
  rw [shown]
  generalize bytes.flatMap encodeByte ++ rest = more
  rw [decodeDots]
  · rfl
  · intro tail _ same
    simp only [List.cons.injEq] at same
    exact ne (eq_of_figures small same.1 (.inl same.2.1))
  · intro tail _ same
    simp only [List.cons.injEq] at same
    exact ne (eq_of_figures small same.1 (.inr same.2.1))

theorem encodeBytes_eq_cons (c : Char) : ∃ rest, encodeBytes c = '%' :: rest := by
  unfold encodeBytes String.utf8EncodeChar
  simp only
  (repeat' split) <;> exact ⟨_, rfl⟩

/-- A kept character at the front of an encoded text was at the front of the text. -/
theorem cons_of_percentEncode_eq_cons {set : Char → Bool} {cs rest : List Char} {c : Char}
    (other : c ≠ '%') (same : percentEncode set cs = c :: rest) :
    ∃ more, cs = c :: more ∧ percentEncode set more = rest := by
  cases cs with
  | nil => cases same
  | cons d more =>
      rw [percentEncode, List.flatMap_cons] at same
      split at same
      · simp only [List.singleton_append, List.cons.injEq] at same
        obtain ⟨rfl, same⟩ := same
        exact ⟨more, rfl, same⟩
      · obtain ⟨bytes, spelled⟩ := encodeBytes_eq_cons d
        rw [spelled, List.cons_append, List.cons.injEq] at same
        exact absurd same.1.symm other

/-- The end of an encoded dot in an encoded text was there before. -/
theorem exists_of_encoded_dot {mark : Char} (isMark : mark = 'e' ∨ mark = 'E') {cs more : List Char}
    (same : percentEncode inPathSet cs = '2' :: mark :: more) :
    ∃ after, cs = '2' :: mark :: after ∧ percentEncode inPathSet after = more := by
  have other : mark ≠ '%' := by rcases isMark with rfl | rfl <;> decide
  obtain ⟨after, rfl, next⟩ := cons_of_percentEncode_eq_cons (by decide) same
  obtain ⟨after, rfl, rest⟩ := cons_of_percentEncode_eq_cons other next
  exact ⟨after, rfl, rest⟩

/-- **Encoding adds no dots.**  A text that is all dots after it has been encoded, once its
encoded dots are decoded, was not changed by being encoded. -/
theorem eq_of_decodeDots_percentEncode {cs : List Char}
    (dots : ∀ c ∈ decodeDots (percentEncode inPathSet cs), c = '.') :
    percentEncode inPathSet cs = cs := by
  induction hn : cs.length using Nat.strongRecOn generalizing cs with
  | _ n ih =>
      cases cs with
      | nil => rfl
      | cons c rest =>
          by_cases kept : c.toNat < 128 ∧ inPathSet c = false
          · rw [percentEncode_cons_kept kept.1 kept.2] at dots ⊢
            by_cases percent : c = '%'
            · subst percent
              -- a percent sign stays unless it begins an encoded dot, whose characters are kept too
              rw [decodeDots.eq_def] at dots
              split at dots
              · rename_i more same
                simp only [List.cons.injEq, true_and] at same
                obtain ⟨after, rfl, rfl⟩ := exists_of_encoded_dot (.inl rfl) same
                have shorter := ih after.length (by simp at hn; omega)
                  (List.forall_mem_cons.1 dots).2 rfl
                rw [same, shorter]
              · rename_i more same
                simp only [List.cons.injEq, true_and] at same
                obtain ⟨after, rfl, rfl⟩ := exists_of_encoded_dot (.inr rfl) same
                have shorter := ih after.length (by simp at hn; omega)
                  (List.forall_mem_cons.1 dots).2 rfl
                rw [same, shorter]
              · rename_i same
                simp only [List.cons.injEq] at same
                obtain ⟨rfl, rfl⟩ := same
                exact absurd ((List.forall_mem_cons.1 dots).1) (by decide)
              · rename_i never
                cases never
            · rw [decodeDots_cons percent] at dots
              rw [ih rest.length (by simp at hn; omega) (List.forall_mem_cons.1 dots).2 rfl]
          · exfalso
            have other : c ≠ '.' := by
              rintro rfl
              exact kept ⟨by decide, by decide⟩
            have encoded : percentEncode inPathSet (c :: rest)
                = encodeBytes c ++ percentEncode inPathSet rest := by
              have lost : ¬ (c.toNat < 128 && !inPathSet c) = true := by simpa using kept
              rw [percentEncode, List.flatMap_cons, if_neg lost]
              rfl
            have head := head?_decodeDots_encodeBytes other (percentEncode inPathSet rest)
            rw [← encoded] at head
            exact absurd (dots '%' (List.mem_of_head? head)) (by decide)

/-! ## Segments -/

/-- A segment that reads as itself: it is written out, not parted, and does not stand for dots. -/
structure IsSegment (special : Bool) (part : List Char) : Prop where
  ascii : ∀ c ∈ part, c.toNat < 128
  outside : ∀ c ∈ part, inPathSet c = false
  unparted : ∀ c ∈ part, isSlash special c = false
  dot : decodeDots part ≠ ['.']
  dots : decodeDots part ≠ ['.', '.']

namespace IsSegment

variable {special : Bool} {part : List Char}

theorem empty : IsSegment special [] :=
  ⟨by simp, by simp, by simp, by simp [decodeDots], by simp [decodeDots]⟩

theorem percentEncode_eq (segment : IsSegment special part) : percentEncode inPathSet part = part :=
  percentEncode_eq_self segment.ascii segment.outside

/-- **A piece of a path is a segment once it is encoded.** -/
theorem encoded {piece : List Char} (unparted : ∀ c ∈ piece, isSlash special c = false)
    (dot : decodeDots piece ≠ ['.']) (dots : decodeDots piece ≠ ['.', '.']) :
    IsSegment special (percentEncode inPathSet piece) := by
  have figures : ∀ m ∈ List.range 16, (Text.figure m).toNat < 128 ∧ inPathSet (Text.figure m) = false
      ∧ isSlash true (Text.figure m) = false := by decide
  have slash : ∀ c, isSlash true c = false → isSlash special c = false := by
    intro c free
    cases special <;> simp_all [isSlash]
  have each : ∀ c ∈ percentEncode inPathSet piece,
      c.toNat < 128 ∧ inPathSet c = false ∧ isSlash special c = false := by
    intro c member
    rcases mem_percentEncode member with ⟨inside, ascii, outside⟩ | rfl | ⟨n, small, rfl⟩
    · exact ⟨ascii, outside, unparted c inside⟩
    · exact ⟨by decide, by decide, slash _ (by decide)⟩
    · obtain ⟨ascii, outside, free⟩ := figures n (List.mem_range.2 small)
      exact ⟨ascii, outside, slash _ free⟩
  refine ⟨fun c member => (each c member).1, fun c member => (each c member).2.1,
    fun c member => (each c member).2.2, ?_, ?_⟩
  · intro one
    have same : percentEncode inPathSet piece = piece :=
      eq_of_decodeDots_percentEncode (by simp [one])
    exact dot (same ▸ one)
  · intro two
    have same : percentEncode inPathSet piece = piece :=
      eq_of_decodeDots_percentEncode (by simp [two])
    exact dots (same ▸ two)

theorem drive {letter : Char} (alpha : letter.isAlpha = true) : IsSegment special [letter, ':'] := by
  have letters : ∀ m ∈ List.range 128, (Char.ofNat m).isAlpha = true →
      inPathSet (Char.ofNat m) = false ∧ isSlash true (Char.ofNat m) = false
        ∧ Char.ofNat m ≠ '%' := by decide +kernel
  have seen : isVisible letter = true := isVisible_of_isAlphanum (by simp [Char.isAlphanum, alpha])
  simp only [isVisible, Bool.and_eq_true, decide_eq_true_eq] at seen
  have one := letters letter.toNat (List.mem_range.2 (by omega))
  rw [Char.ofNat_toNat] at one
  obtain ⟨outside, free, other⟩ := one alpha
  have unparted : isSlash special letter = false := by
    cases special <;> simp_all [isSlash]
  have shown : decodeDots [letter, ':'] = [letter, ':'] := by
    rw [decodeDots_cons other]
    rfl
  refine ⟨?_, ?_, ?_, ?_, ?_⟩
  · simp only [List.forall_mem_cons]
    exact ⟨by omega, by decide, by simp⟩
  · simp only [List.forall_mem_cons]
    exact ⟨outside, by decide, by simp⟩
  · simp only [List.forall_mem_cons]
    exact ⟨unparted, by cases special <;> decide, by simp⟩
  · rw [shown]
    simp
  · rw [shown]
    simp

end IsSegment

/-! ## Paths -/

namespace Route

theorem isSegment_written (kind : Kind) (first : Bool) {piece : List Char}
    (unparted : ∀ c ∈ piece, isSlash kind.isSpecial c = false)
    (dot : decodeDots piece ≠ ['.']) (dots : decodeDots piece ≠ ['.', '.']) :
    IsSegment kind.isSpecial (written kind first piece) := by
  unfold written
  split
  · rename_i drive
    simp only [Bool.and_eq_true] at drive
    have letter := drive.2
    unfold isDriveLetter at letter
    split at letter
    · simp only [Bool.and_eq_true] at letter
      exact .drive letter.1
    · cases letter
  · exact .encoded unparted dot dots

/-- Segments that read as themselves. -/
abbrev Segments (kind : Kind) (parts : List (List Char)) : Prop :=
  ∀ part ∈ parts, IsSegment kind.isSpecial part

theorem segments_nil (kind : Kind) : Segments kind [] := by
  intro part member
  cases member

theorem segments_singleton {kind : Kind} {part : List Char}
    (segment : IsSegment kind.isSpecial part) : Segments kind [part] :=
  List.forall_mem_singleton.2 segment

theorem segments_step (kind : Kind) {done : List (List Char)} (segments : Segments kind done)
    {piece : List Char} (unparted : ∀ c ∈ piece, isSlash kind.isSpecial c = false) (final : Bool) :
    Segments kind (step kind done piece final) := by
  have ending : Segments kind (if final then [[]] else []) := by
    cases final with
    | false => exact segments_nil kind
    | true => exact segments_singleton .empty
  have before : Segments kind (parent done) := by
    unfold parent
    split
    · split
      · exact segments
      · exact fun part member => segments part (List.dropLast_subset done member)
    · exact segments_nil kind
  unfold step
  simp only
  split
  · exact List.forall_mem_append.2 ⟨before, ending⟩
  · rename_i dots
    split
    · exact List.forall_mem_append.2 ⟨segments, ending⟩
    · rename_i dot
      exact List.forall_mem_append.2
        ⟨segments, segments_singleton (isSegment_written kind done.isEmpty unparted dot dots)⟩

theorem segments_extend (kind : Kind) {done pieces : List (List Char)} (segments : Segments kind done)
    (unparted : ∀ piece ∈ pieces, ∀ c ∈ piece, isSlash kind.isSpecial c = false) :
    Segments kind (extend kind done pieces) := by
  fun_induction extend kind done pieces with
  | case1 done => exact segments
  | case2 done last => exact segments_step kind segments (unparted last List.mem_cons_self) true
  | case3 done piece rest _ ih =>
      obtain ⟨first, others⟩ := List.forall_mem_cons.1 unparted
      exact ih (segments_step kind segments first false) others

/-- A path that has been read: its segments read as themselves, and none at the front of a file
is empty. -/
structure Settled (kind : Kind) (parts : List (List Char)) : Prop where
  segments : Segments kind parts
  trimmed : trimEmpty kind parts = parts

theorem trimEmpty_of_ne_nil (kind : Kind) {first : List Char} (some_ : first ≠ [])
    (rest : List (List Char)) : trimEmpty kind (first :: rest) = first :: rest := by
  have seen : first.isEmpty = false := by simpa using some_
  unfold trimEmpty
  split
  · rw [List.dropWhile_cons, seen]
    rfl
  · rfl

/-- The front of a file's path is not empty once it has been trimmed. -/
theorem trimEmpty_trimEmpty (kind : Kind) (parts : List (List Char)) :
    trimEmpty kind (trimEmpty kind parts) = trimEmpty kind parts := by
  by_cases file : kind = .file
  · cases left : parts.dropWhile List.isEmpty with
    | nil =>
        have root : trimEmpty kind parts = [[]] := by simp [trimEmpty, file, left]
        rw [root]
        simp [trimEmpty]
    | cons first rest =>
        have some_ : first ≠ [] := by
          have head := List.head_dropWhile_not List.isEmpty (l := parts) (by simp [left])
          simpa [left] using head
        have kept : trimEmpty kind parts = first :: rest := by simp [trimEmpty, file, left]
        rw [kept, trimEmpty_of_ne_nil kind some_]
  · simp [trimEmpty, file]

theorem segments_trimEmpty {kind : Kind} {parts : List (List Char)} (segments : Segments kind parts) :
    Segments kind (trimEmpty kind parts) := by
  unfold trimEmpty
  split
  · split
    · exact segments_singleton .empty
    · exact fun part member => segments part ((List.dropWhile_sublist _).subset member)
  · exact segments

theorem settled_readAfter (kind : Kind) (text : List Char) : Settled kind (readAfter kind [] text) :=
  ⟨segments_trimEmpty (segments_extend kind (segments_nil kind) fun _ member =>
      Text.not_mark_of_mem_pieces member), trimEmpty_trimEmpty kind _⟩

theorem settled_nil {kind : Kind} (plain : kind.isSpecial = false) : Settled kind [] := by
  refine ⟨segments_nil kind, ?_⟩
  cases kind <;> simp_all [trimEmpty, Kind.isSpecial]

theorem settled_read (kind : Kind) (text : List Char) : Settled kind (read kind text) := by
  unfold read
  split
  · split
    · exact settled_readAfter kind []
    · rename_i plain
      exact settled_nil (by simpa using plain)
  · split
    · exact settled_readAfter kind _
    · exact settled_readAfter kind _

end Route

/-! ## Reading again -/

namespace Route

/-- The segments with a colon in place of the bar behind a drive letter. -/
def withColon (kind : Kind) : List (List Char) → List (List Char)
  | [] => []
  | first :: rest => written kind true first :: rest

variable {kind : Kind}

theorem written_later {part : List Char} (segment : IsSegment kind.isSpecial part) :
    written kind false part = part := by
  simp [written, segment.percentEncode_eq]

theorem written_first {part : List Char} (segment : IsSegment kind.isSpecial part) :
    written kind true part
      = if kind = .file ∧ isDriveLetter part = true then part.take 1 ++ [':'] else part := by
  simp [written, segment.percentEncode_eq]

theorem segments_withColon {parts : List (List Char)} (segments : Segments kind parts) :
    Segments kind (withColon kind parts) := by
  cases parts with
  | nil => exact segments_nil kind
  | cons first rest =>
      obtain ⟨segment, others⟩ := List.forall_mem_cons.1 segments
      refine List.forall_mem_cons.2 ⟨?_, others⟩
      exact isSegment_written kind true segment.unparted segment.dot segment.dots

theorem step_of_isSegment (done : List (List Char)) {part : List Char}
    (segment : IsSegment kind.isSpecial part) (final : Bool) :
    step kind done part final = done ++ [written kind done.isEmpty part] := by
  simp [step, segment.dot, segment.dots]

theorem extend_of_segments {done pieces : List (List Char)} (some_ : done ≠ [])
    (segments : Segments kind pieces) : extend kind done pieces = done ++ pieces := by
  have later : done.isEmpty = false := by simpa using some_
  fun_induction extend kind done pieces with
  | case1 done => rw [List.append_nil]
  | case2 done last =>
      have segment := segments last List.mem_cons_self
      rw [step_of_isSegment done segment, later, written_later segment]
  | case3 done piece rest _ ih =>
      obtain ⟨segment, others⟩ := List.forall_mem_cons.1 segments
      rw [step_of_isSegment done segment, later, written_later segment] at ih ⊢
      rw [ih (by simp) others (by simp), List.append_assoc, List.singleton_append]

theorem extend_nil_of_segments {first : List Char} {rest : List (List Char)}
    (segments : Segments kind (first :: rest)) :
    extend kind [] (first :: rest) = written kind true first :: rest := by
  obtain ⟨segment, others⟩ := List.forall_mem_cons.1 segments
  cases rest with
  | nil =>
      show step kind [] first true = _
      rw [step_of_isSegment [] segment]
      rfl
  | cons second rest =>
      show extend kind (step kind [] first false) (second :: rest) = _
      rw [step_of_isSegment [] segment, extend_of_segments (by simp) others]
      rfl

/-- The pieces of a text of segments with a slash at its end. -/
theorem pieces_segmentsToChars {first : List Char} {rest : List (List Char)}
    (segments : Segments kind (first :: rest)) :
    Text.pieces (isSlash kind.isSpecial) (first ++ (segmentsToChars rest ++ ['/']))
      = first :: (rest ++ [[]]) := by
  have slash : isSlash kind.isSpecial '/' = true := by simp [isSlash]
  induction rest generalizing first with
  | nil =>
      have free := (segments first List.mem_cons_self).unparted
      exact Text.pieces_append_cons free slash []
  | cons second rest ih =>
      obtain ⟨segment, others⟩ := List.forall_mem_cons.1 segments
      have shown : first ++ (segmentsToChars (second :: rest) ++ ['/'])
          = first ++ '/' :: (second ++ (segmentsToChars rest ++ ['/'])) := by
        simp [segmentsToChars]
      rw [shown, Text.pieces_append_cons segment.unparted slash, ih others]
      rfl

/-- A settled path of a file begins with a segment that is not empty, unless it is the root. -/
theorem Settled.first_ne_nil {first : List Char} {rest : List (List Char)}
    (settled : Settled .file (first :: rest)) (notRoot : first :: rest ≠ [[]]) : first ≠ [] := by
  rintro rfl
  have trimmed := settled.trimmed
  simp only [trimEmpty, if_true, List.dropWhile_cons, List.isEmpty_nil] at trimmed
  split at trimmed
  · exact notRoot trimmed.symm
  · have shorter := (List.dropWhile_sublist List.isEmpty (l := rest)).length_le
    rw [trimmed, List.length_cons] at shorter
    omega

theorem written_ne_nil {first : Bool} {part : List Char} (segment : IsSegment kind.isSpecial part)
    (some_ : part ≠ []) : written kind first part ≠ [] := by
  cases first with
  | false => rwa [written_later segment]
  | true =>
      rw [written_first segment]
      split
      · simp
      · exact some_

/-- **A path that is closed by a slash reads as itself,** but for the bar of a drive letter. -/
theorem read_of_settled {parts : List (List Char)} (settled : Settled kind parts)
    (unclosed : parts.getLast? ≠ some []) :
    read kind (segmentsToChars parts ++ ['/']) = withColon kind parts ++ [[]] := by
  cases parts with
  | nil => cases kind <;> rfl
  | cons first rest =>
      have slash : isSlash kind.isSpecial '/' = true := by simp [isSlash]
      have closed : Segments kind (first :: (rest ++ [[]])) := by
        rw [← List.cons_append]
        exact List.forall_mem_append.2 ⟨settled.segments, segments_singleton .empty⟩
      have text : segmentsToChars (first :: rest) ++ ['/']
          = '/' :: (first ++ (segmentsToChars rest ++ ['/'])) := by
        simp [segmentsToChars]
      have pieces := pieces_segmentsToChars settled.segments
      rw [text, read, if_pos slash, readAfter, pieces, extend_nil_of_segments closed]
      show trimEmpty kind (written kind true first :: (rest ++ [[]])) = _
      by_cases file : kind = .file
      · subst file
        have notRoot : first :: rest ≠ [[]] := by
          intro root
          rw [root] at unclosed
          exact unclosed rfl
        have some_ := settled.first_ne_nil notRoot
        rw [trimEmpty_of_ne_nil _ (written_ne_nil (settled.segments first List.mem_cons_self) some_)]
        rfl
      · simp [trimEmpty, file, withColon]

end Route

/-! ## Bases -/

/-- A URL whose path, if it has a root, is settled. -/
def IsSettled (u : Url) : Prop := ∀ parts, u.route = .segments parts → Route.Settled u.kind parts

theorem isSettled_of_route {u : Url} {parts : List (List Char)} (route : u.route = .segments parts)
    (settled : Route.Settled u.kind parts) : u.IsSettled := by
  intro others same
  rw [route] at same
  cases same
  exact settled

theorem isSettled_afterSlashes {scheme : List Char} {o : Outline} {text : List Char} {u : Url}
    (read : afterSlashes scheme o text = .ok u) : u.IsSettled := by
  simp only [afterSlashes, bind, Except.bind, pure, Except.pure] at read
  split at read
  · cases read
  · cases read
    exact isSettled_of_route rfl (Route.settled_read _ _)

theorem isSettled_localFile (o : Outline) {parts : List (List Char)}
    (settled : Route.Settled .file parts) : (localFile o parts).IsSettled :=
  isSettled_of_route rfl settled

theorem isSettled_fileOnHost {o : Outline} {text : List Char} {u : Url}
    (read : fileOnHost o text = .ok u) : u.IsSettled := by
  have path := Route.settled_read .file (text.dropWhile (!isSlash true ·))
  simp only [fileOnHost, bind, Except.bind, pure, Except.pure] at read
  split at read
  · cases read
    exact isSettled_localFile o (Route.settled_readAfter _ _)
  · split at read
    · split at read
      · cases read
        exact isSettled_localFile o path
      · cases read
        exact isSettled_of_route rfl path
    · split at read
      · cases read
      · split at read
        · cases read
          exact isSettled_localFile o path
        · cases read
          exact isSettled_of_route rfl path

theorem isSettled_resolveFile {o : Outline} {u : Url} (read : resolveFile none o = .ok u) :
    u.IsSettled := by
  have anywhere : ∀ text, (localFile o (Route.readAfter .file [] text)).IsSettled := fun text =>
    isSettled_localFile o (Route.settled_readAfter _ text)
  unfold resolveFile at read
  split at read
  · cases read
    exact isSettled_localFile o (Route.settled_read .file [])
  · split at read
    · split at read
      · split at read
        · exact isSettled_fileOnHost read
        · cases read
          exact anywhere _
      · cases read
        exact anywhere _
    · cases read
      exact anywhere _

theorem isSettled_afterScheme {scheme : List Char} {o : Outline} {u : Url}
    (read : afterScheme none scheme o = .ok u) : u.IsSettled := by
  unfold afterScheme at read
  split at read
  · exact isSettled_resolveFile read
  · exact isSettled_afterSlashes read
  · rename_i general
    split at read
    · exact isSettled_afterSlashes read
    · cases read
      refine isSettled_of_route rfl ?_
      rw [kind, general]
      exact Route.settled_readAfter _ _
    · cases read
      intro parts rooted
      cases rooted

/-- **The path of a URL that has been read is settled.** -/
theorem ofText_settled {text : String} {u : Url} (read : ofText text = .ok u) : u.IsSettled := by
  unfold ofText resolve at read
  simp only at read
  split at read
  · exact isSettled_afterScheme read
  · cases read

end GeoFeed.Url
