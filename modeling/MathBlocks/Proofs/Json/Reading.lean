import MathBlocks.Json.Reader
import MathBlocks.Proofs.Json.Spelling

/-!
# What is written is read back

The reader puts the tokens of a value together to that value, whatever is open around it. With the
scan of the text this makes writing and reading inverse to each other, on values that are made of
texts, arrays and objects.

How deep a value is nested shows in its tokens, as the greatest number of arrays and objects that
are open at once.
-/

namespace MathBlocks
namespace Json

/-- A value begins with a token that ends nothing. -/
theorem tokens_eq_cons
    (value : Json) :
    ∃ first rest, value.tokens = first :: rest ∧ first ≠ .closeArray ∧ first ≠ .closeObject := by
  cases value <;> exact ⟨_, _, rfl, by simp, by simp⟩

/-- Where an array may end or have an item, what begins a value begins an item. -/
theorem readTokens_firstItem
    (stack : List OpenFrame)
    (item : Json)
    (rest : List Token) :
    readTokens (.firstItem stack) (item.tokens ++ rest) =
      readTokens (.value (.array [] :: stack)) (item.tokens ++ rest) := by
  obtain ⟨first, others, htokens, hclose, _⟩ := item.tokens_eq_cons
  rw [htokens]
  cases first <;> first | rfl | exact absurd rfl hclose

theorem readTokens_of_step
    {state next : ReaderState}
    {token : Token}
    (h : readerStep state token = some next)
    (rest : List Token) :
    readTokens state (token :: rest) = readTokens next rest := by
  rw [readTokens, h]

mutual

/-- The tokens of a value are read as that value. -/
theorem readTokens_tokens :
    (value : Json) →
    (stack : List OpenFrame) →
    (rest : List Token) →
    readTokens (.value stack) (value.tokens ++ rest) = readTokens (.after value stack) rest
  | .null, _, _ => rfl
  | .bool _, _, _ => rfl
  | .number _, _, _ => rfl
  | .string _, _, _ => rfl
  | .array [], _, _ => rfl
  | .array (item :: items), stack, rest => by
      have hopening : readerStep (.value stack) .openArray = some (.firstItem stack) := rfl
      simp only [tokens, itemTokens, intercalate_comma, List.cons_append, List.append_assoc,
        List.nil_append]
      rw [readTokens_of_step hopening, readTokens_firstItem,
        readTokens_tokens item (.array [] :: stack), readTokens_items items item [] stack rest]
      rfl
  | .object [], _, _ => rfl
  | .object ((name, value) :: members), stack, rest => by
      have hopening : readerStep (.value stack) .openObject = some (.firstMember stack) := rfl
      have hname : readerStep (.firstMember stack) (.string name) =
          some (.colon [] name stack) := rfl
      have hcolon : readerStep (.colon [] name stack) .colon =
          some (.value (.object [] name :: stack)) := rfl
      simp only [tokens, memberTokens, intercalate_comma, List.cons_append, List.append_assoc,
        List.nil_append]
      rw [readTokens_of_step hopening, readTokens_of_step hname, readTokens_of_step hcolon,
        readTokens_tokens value (.object [] name :: stack),
        readTokens_members members name value [] stack rest]
      rfl

/-- The further items of an array are read, and its end. -/
theorem readTokens_items :
    (items : List Json) →
    (item : Json) →
    (before : List Json) →
    (stack : List OpenFrame) →
    (rest : List Token) →
    readTokens (.after item (.array before :: stack))
        ((itemTokens items).flatMap (.comma :: ·) ++ .closeArray :: rest) =
      readTokens (.after (.array (before.reverse ++ item :: items)) stack) rest
  | [], item, before, stack, rest => by
      have hclosing : readerStep (.after item (.array before :: stack)) .closeArray =
          some (.after (.array (item :: before).reverse) stack) := rfl
      rw [itemTokens, List.flatMap_nil, List.nil_append, readTokens_of_step hclosing,
        List.reverse_cons]
  | next :: items, item, before, stack, rest => by
      have hcomma : readerStep (.after item (.array before :: stack)) .comma =
          some (.value (.array (item :: before) :: stack)) := rfl
      rw [itemTokens, List.flatMap_cons, List.cons_append, List.cons_append, List.append_assoc,
        readTokens_of_step hcomma, readTokens_tokens next (.array (item :: before) :: stack),
        readTokens_items items next (item :: before) stack rest, List.reverse_cons,
        List.append_assoc]
      rfl

/-- The further members of an object are read, and its end. -/
theorem readTokens_members :
    (members : List (Option String × Json)) →
    (name : Option String) →
    (value : Json) →
    (before : List (Option String × Json)) →
    (stack : List OpenFrame) →
    (rest : List Token) →
    readTokens (.after value (.object before name :: stack))
        ((memberTokens members).flatMap (.comma :: ·) ++ .closeObject :: rest) =
      readTokens (.after (.object (before.reverse ++ (name, value) :: members)) stack) rest
  | [], name, value, before, stack, rest => by
      have hclosing : readerStep (.after value (.object before name :: stack)) .closeObject =
          some (.after (.object ((name, value) :: before).reverse) stack) := rfl
      rw [memberTokens, List.flatMap_nil, List.nil_append, readTokens_of_step hclosing,
        List.reverse_cons]
  | (other, next) :: members, name, value, before, stack, rest => by
      have hcomma : readerStep (.after value (.object before name :: stack)) .comma =
          some (.member ((name, value) :: before) stack) := rfl
      have hname : readerStep (.member ((name, value) :: before) stack) (.string other) =
          some (.colon ((name, value) :: before) other stack) := rfl
      have hcolon : readerStep (.colon ((name, value) :: before) other stack) .colon =
          some (.value (.object ((name, value) :: before) other :: stack)) := rfl
      simp only [memberTokens, List.flatMap_cons, List.cons_append, List.append_assoc]
      rw [readTokens_of_step hcomma, readTokens_of_step hname, readTokens_of_step hcolon,
        readTokens_tokens next (.object ((name, value) :: before) other :: stack),
        readTokens_members members other next ((name, value) :: before) stack rest,
        List.reverse_cons, List.append_assoc]
      rfl

end

/-- A value is read from any way to write it. -/
theorem ofString?_of_writtenAs
    {value : Json}
    {text : String}
    (h : value.WrittenAs text) :
    ofString? text = some value := by
  have hread := readTokens_tokens value [] []
  rw [List.append_nil] at hread
  unfold ofString?
  rw [ofChars?_of_writtenAs h]
  exact hread

/-- What is written is read back, if it is made of texts, arrays and objects. -/
theorem ofString?_pretty
    {value : Json}
    (h : value.IsTextual) :
    ofString? value.pretty = some value :=
  ofString?_of_writtenAs (writtenAs_pretty h)

/-- A line feed behind what is written makes no difference. -/
theorem ofString?_pretty_lineFeed
    {value : Json}
    (h : value.IsTextual) :
    ofString? (value.pretty ++ "\n") = some value :=
  ofString?_of_writtenAs (writtenAs_pretty h).lineFeed

/-- The greatest number of arrays and objects that are open at once, from a number of them on. -/
def mostOpenFrom : Nat → List Token → Nat
  | depth, [] => depth
  | depth, token :: rest =>
      match token with
      | .openArray | .openObject => max depth (mostOpenFrom (depth + 1) rest)
      | .closeArray | .closeObject => max depth (mostOpenFrom (depth - 1) rest)
      | _ => mostOpenFrom depth rest

/-- The greatest number of arrays and objects that are open at once among tokens. -/
def mostOpen (tokens : List Token) : Nat :=
  mostOpenFrom 0 tokens

mutual

/-- How many arrays and objects a value has inside each other, itself included. -/
def nesting : Json → Nat
  | .array items => itemNesting items + 1
  | .object members => memberNesting members + 1
  | _ => 0
termination_by structural value => value

/-- How many arrays and objects the items of an array have inside each other. -/
def itemNesting : List Json → Nat
  | [] => 0
  | item :: rest => max item.nesting (itemNesting rest)
termination_by structural items => items

/-- How many arrays and objects the members of an object have inside each other. -/
def memberNesting : List (Option String × Json) → Nat
  | [] => 0
  | (_, value) :: rest => max value.nesting (memberNesting rest)
termination_by structural members => members

end

theorem le_mostOpenFrom
    (depth : Nat)
    (tokens : List Token) :
    depth ≤ mostOpenFrom depth tokens := by
  induction tokens with
  | nil =>
      exact Nat.le_refl _
  | cons token rest ih =>
      unfold mostOpenFrom
      split
      · exact Nat.le_max_left _ _
      · exact Nat.le_max_left _ _
      · exact Nat.le_max_left _ _
      · exact Nat.le_max_left _ _
      · exact ih

mutual

/-- The tokens of a value open as many arrays and objects as it has inside each other. -/
theorem mostOpenFrom_tokens :
    (value : Json) →
    (depth : Nat) →
    (rest : List Token) →
    mostOpenFrom depth (value.tokens ++ rest) =
      max (depth + value.nesting) (mostOpenFrom depth rest)
  | .null, depth, rest => (Nat.max_eq_right (le_mostOpenFrom depth rest)).symm
  | .bool _, depth, rest => (Nat.max_eq_right (le_mostOpenFrom depth rest)).symm
  | .number _, depth, rest => (Nat.max_eq_right (le_mostOpenFrom depth rest)).symm
  | .string _, depth, rest => (Nat.max_eq_right (le_mostOpenFrom depth rest)).symm
  | .array items, depth, rest => by
      have hitems := mostOpenFrom_itemTokens items (depth + 1) (.closeArray :: rest)
      have hrest := le_mostOpenFrom depth rest
      simp only [tokens, nesting, List.cons_append, List.append_assoc, List.nil_append,
        mostOpenFrom, Nat.add_sub_cancel] at hitems ⊢
      omega
  | .object members, depth, rest => by
      have hmembers := mostOpenFrom_memberTokens members (depth + 1) (.closeObject :: rest)
      have hrest := le_mostOpenFrom depth rest
      simp only [tokens, nesting, List.cons_append, List.append_assoc, List.nil_append,
        mostOpenFrom, Nat.add_sub_cancel] at hmembers ⊢
      omega

theorem mostOpenFrom_itemTokens :
    (items : List Json) →
    (depth : Nat) →
    (rest : List Token) →
    mostOpenFrom depth ([.comma].intercalate (itemTokens items) ++ rest) =
      max (depth + itemNesting items) (mostOpenFrom depth rest)
  | [], depth, rest => (Nat.max_eq_right (le_mostOpenFrom depth rest)).symm
  | [item], depth, rest => by
      have hitem := mostOpenFrom_tokens item depth rest
      simpa [itemTokens, itemNesting] using hitem
  | item :: next :: items, depth, rest => by
      have hitems := mostOpenFrom_itemTokens (next :: items) depth rest
      rw [itemTokens, itemTokens, List.intercalate_cons_cons, ← itemTokens, List.append_assoc,
        List.append_assoc, mostOpenFrom_tokens item depth]
      simp only [List.cons_append, List.nil_append, mostOpenFrom]
      rw [hitems]
      simp only [itemNesting]
      omega

theorem mostOpenFrom_memberTokens :
    (members : List (Option String × Json)) →
    (depth : Nat) →
    (rest : List Token) →
    mostOpenFrom depth ([.comma].intercalate (memberTokens members) ++ rest) =
      max (depth + memberNesting members) (mostOpenFrom depth rest)
  | [], depth, rest => (Nat.max_eq_right (le_mostOpenFrom depth rest)).symm
  | [(_, value)], depth, rest => by
      have hvalue := mostOpenFrom_tokens value depth rest
      simpa [memberTokens, memberNesting, mostOpenFrom] using hvalue
  | (name, value) :: (other, next) :: members, depth, rest => by
      have hmembers := mostOpenFrom_memberTokens ((other, next) :: members) depth rest
      rw [memberTokens, memberTokens, List.intercalate_cons_cons, ← memberTokens]
      simp only [List.cons_append, List.append_assoc, List.nil_append, mostOpenFrom]
      rw [mostOpenFrom_tokens value depth]
      simp only [mostOpenFrom]
      rw [hmembers]
      simp only [memberNesting]
      omega

end

/-- The text of a value opens as many arrays and objects at once as are inside each other in it. -/
theorem mostOpen_tokens
    (value : Json) :
    mostOpen value.tokens = value.nesting := by
  have hopen := mostOpenFrom_tokens value 0 []
  rw [List.append_nil] at hopen
  unfold mostOpen
  rw [hopen, mostOpenFrom]
  omega

end Json
end MathBlocks
