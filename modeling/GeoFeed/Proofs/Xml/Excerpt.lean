/-
# GeoFeed.Proofs.Xml.Excerpt -- the part of a document under certain names

An excerpt keeps the tags with certain names and the characters that follow them, up
to the next tag of another name.  It is taken token by token and needs no complete
document, so that what has been written of a document that breaks off can be compared
as well.

An excerpt of pieces put in a row is the excerpts of the pieces in a row, if no piece
leaves a tag behind under which characters are kept (`Yields.append`).
-/
import GeoFeed.Proofs.Xml.Tree

namespace GeoFeed.Xml

set_option autoImplicit false

/-- The name in a tag. -/
def Token.tagName? : Token → Option String
  | .opening name _ | .closing name | .empty name _ => some name
  | _ => none

def Event.tagName? : Event → Option String
  | .opening name _ | .closing name | .empty name _ => some name
  | _ => none

/-- The tokens under wanted names; `kept` tells whether the last tag had one. -/
def excerpt (wanted : String → Bool) (kept : Bool) : List Token → List Token
  | [] => []
  | t :: rest =>
      let keep := (t.tagName?.map wanted).getD kept
      if keep then t :: excerpt wanted keep rest else excerpt wanted keep rest

/-- The tokens under wanted names in bytes. -/
def excerptOfBytes? (wanted : String → Bool) (bytes : List UInt8) : Option (List Token) :=
  (tokensOfBytes? bytes).map (excerpt wanted false)

theorem tagName?_of_mem_tokens {e : Event} {t : Token} (member : t ∈ e.tokens) :
    t.tagName? = e.tagName? := by
  cases e with
  | text content =>
      obtain ⟨c, -, rfl⟩ := List.mem_map.1 member
      rfl
  | _ =>
      obtain rfl := List.mem_singleton.1 member
      rfl

variable {wanted : String → Bool}

theorem excerpt_append_of_unwanted {front : List Token}
    (unwanted : ∀ t ∈ front, ∀ name ∈ t.tagName?, wanted name = false) (rest : List Token) :
    excerpt wanted false (front ++ rest) = excerpt wanted false rest := by
  induction front with
  | nil => rfl
  | cons t front ih =>
      have dropped : (t.tagName?.map wanted).getD false = false := by
        cases found : t.tagName? with
        | none => rfl
        | some name => exact unwanted t List.mem_cons_self name found
      rw [List.cons_append, excerpt, dropped]
      exact ih fun u member => unwanted u (List.mem_cons_of_mem _ member)

theorem excerpt_append_of_wanted {front : List Token}
    (all : ∀ t ∈ front, ∀ name ∈ t.tagName?, wanted name = true) (rest : List Token) :
    excerpt wanted true (front ++ rest) = front ++ excerpt wanted true rest := by
  induction front with
  | nil => rfl
  | cons t front ih =>
      have kept : (t.tagName?.map wanted).getD true = true := by
        cases found : t.tagName? with
        | none => rfl
        | some name => exact all t List.mem_cons_self name found
      rw [List.cons_append, excerpt, kept, List.cons_append,
        ← ih fun u member => all u (List.mem_cons_of_mem _ member)]
      rfl

/-- A tag settles by itself whether it is kept. -/
theorem excerpt_cons_of_tag {t : Token} (tag : t.tagName?.isSome) (kept other : Bool)
    (rest : List Token) : excerpt wanted kept (t :: rest) = excerpt wanted other (t :: rest) := by
  obtain ⟨name, found⟩ := Option.isSome_iff_exists.1 tag
  simp only [excerpt, found, Option.map_some, Option.getD_some]

/-- Legible events that leave so much in an excerpt, whatever follows. -/
structure Yields (wanted : String → Bool) (events : List Event) (kept : List Token) : Prop where
  legible : ∀ e ∈ events, e.Legible
  takes : ∀ rest, excerpt wanted false (events.flatMap Event.tokens ++ rest)
    = kept ++ excerpt wanted false rest

namespace Yields

theorem nil : Yields wanted [] [] where
  legible := by simp
  takes _ := rfl

theorem append {front back : List Event} {kept more : List Token}
    (first : Yields wanted front kept) (second : Yields wanted back more) :
    Yields wanted (front ++ back) (kept ++ more) where
  legible := List.forall_mem_append.2 ⟨first.legible, second.legible⟩
  takes rest := by
    rw [List.flatMap_append, List.append_assoc, first.takes, second.takes, List.append_assoc]

/-- Events under other names leave nothing. -/
theorem of_unwanted {events : List Event} (legible : ∀ e ∈ events, e.Legible)
    (unwanted : ∀ e ∈ events, ∀ name ∈ e.tagName?, wanted name = false) :
    Yields wanted events [] where
  legible := legible
  takes rest := by
    refine excerpt_append_of_unwanted (fun t member name found => ?_) rest
    obtain ⟨e, inside, among⟩ := List.mem_flatMap.1 member
    exact unwanted e inside name (tagName?_of_mem_tokens among ▸ found)

/-- Events under wanted names are left whole, where the next tag is another one. -/
theorem of_wanted {events : List Event} (legible : ∀ e ∈ events, e.Legible)
    (all : ∀ e ∈ events, ∀ name ∈ e.tagName?, wanted name = true)
    (tag : ∀ t ∈ (events.flatMap Event.tokens).head?, t.tagName?.isSome) {name : String}
    (named : isName name) (other : wanted name = false) :
    Yields wanted (events ++ [.closing name]) (events.flatMap Event.tokens) where
  legible := by
    refine List.forall_mem_append.2 ⟨legible, fun e member => ?_⟩
    obtain rfl := List.mem_singleton.1 member
    exact named
  takes rest := by
    have tokens : ∀ t ∈ events.flatMap Event.tokens, ∀ name ∈ t.tagName?, wanted name = true := by
      intro t member name found
      obtain ⟨e, inside, among⟩ := List.mem_flatMap.1 member
      exact all e inside name (tagName?_of_mem_tokens among ▸ found)
    have last (kept : Bool) : excerpt wanted kept (.closing name :: rest) = excerpt wanted false rest := by
      simp [excerpt, Token.tagName?, other]
    rw [List.flatMap_append, List.append_assoc]
    generalize events.flatMap Event.tokens = front at tokens tag ⊢
    cases front with
    | nil => exact last false
    | cons t front =>
        rw [List.cons_append, excerpt_cons_of_tag (tag t rfl) false true, ← List.cons_append,
          excerpt_append_of_wanted tokens]
        exact congrArg _ (last true)

end Yields

/-- The excerpt of the bytes that events make up. -/
theorem excerptOfBytes?_bytes {events : List Event} {kept : List Token}
    (yields : Yields wanted events kept) : excerptOfBytes? wanted (bytes events) = some kept := by
  have taken := yields.takes []
  rw [List.append_nil, excerpt, List.append_nil] at taken
  rw [excerptOfBytes?, tokensOfBytes?_bytes yields.legible, Option.map_some, taken]

end GeoFeed.Xml
