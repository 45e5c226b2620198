import ChartQuery.Proofs.Json.Tokens

/-!
# The text of a JSON value

A value is read back from its text, and what follows the text is left. The reader is bounded
by a number of steps; the length of a text is enough, since each step into an array or an
object takes a bracket, and each step to the next item a comma.

Main statement: `ofText?_text`.
-/

namespace ChartQuery.Json

open Text

section Values

variable {rest : List Char} {fuel : Nat}

theorem readChar_cons {c : Char} (solid : isBlank c = false) (d : Char) :
    readChar d (c :: rest) = if d = c then some rest else none := by
  rw [readChar, skipBlanks, List.dropWhile_cons_of_neg (by simp [solid])]

theorem isBlank_of_isDigit {c : Char} (digit : c.isDigit) : isBlank c = false := by
  simp only [isBlank, Bool.or_eq_false_iff, beq_eq_false_iff_ne]
  refine ⟨⟨⟨?_, ?_⟩, ?_⟩, ?_⟩ <;> rintro rfl <;> cases digit

theorem readValue_digits (n : Nat) (after : List Char) :
    readValue (fuel + 1) (Nat.toDigits 10 n ++ after) =
      readNumber false (Nat.toDigits 10 n ++ after) := by
  obtain ⟨first, later, written, digit⟩ := toDigits_eq_cons n
  rw [written, List.cons_append, readValue, skipBlanks,
    List.dropWhile_cons_of_neg (by simp [isBlank_of_isDigit digit])]
  split
  case h_8 => rfl
  all_goals
    rename_i same
    cases same
    cases digit

def separated (texts : List String) : List Char := [','].intercalate (texts.map String.toList)

theorem separated_cons_cons (first second : String) (texts : List String) :
    separated (first :: second :: texts) =
      first.toList ++ ',' :: separated (second :: texts) := by
  simp [separated, List.intercalate_cons_cons]

theorem separated_singleton (text : String) : separated [text] = text.toList := by
  simp [separated]

theorem toList_array (items : List Json) :
    (text (.array items)).toList = '[' :: (separated (itemTexts items) ++ [']']) := by
  simp [text, separated, String.toList_intercalate]

theorem toList_object (members : List (String × Json)) :
    (text (.object members)).toList = '{' :: (separated (memberTexts members) ++ ['}']) := by
  simp [text, separated, String.toList_intercalate]

theorem toList_stringText (s : String) :
    (stringText s).toList = '"' :: (s.toList.flatMap escape ++ ['"']) := by
  simp [stringText]

theorem toList_decimalText (d : Decimal) :
    (decimalText d).toList = (if d.negative then ['-'] else []) ++
      (Nat.toDigits 10 d.coefficient ++ 'e' :: (toString d.exponent).toList) := by
  cases h : d.negative <;> simp [decimalText, h, Nat.toList_repr]

theorem readValue_integer (n : Int) (closes : Closes rest) :
    readValue (fuel + 1) ((toString n).toList ++ rest) = some (.integer n, rest) := by
  rw [toList_toString]
  split
  · have read := readNumber_integer true n.natAbs (by omega) closes
    rw [if_pos rfl, show -(n.natAbs : Int) = n by omega] at read
    exact read
  · have read := readNumber_integer false n.natAbs (by simp) closes
    rw [if_neg Bool.false_ne_true, show (n.natAbs : Int) = n by omega] at read
    rw [readValue_digits, read]

theorem readValue_decimal (d : Decimal) (closes : Closes rest) :
    readValue (fuel + 1) ((decimalText d).toList ++ rest) = some (.real d, rest) := by
  obtain ⟨negative, n, k⟩ := d
  have read := readNumber_decimal negative n k closes
  rw [toList_decimalText]
  simp only [List.append_assoc, List.cons_append]
  cases negative with
  | true => exact read
  | false => exact (readValue_digits n _).trans read

theorem readValue_string (s : String) :
    readValue (fuel + 1) ((stringText s).toList ++ rest) = some (.string s, rest) := by
  have read := readString_stringText s.toList rest
  rw [toList_stringText]
  simp only [List.cons_append, List.append_assoc, List.nil_append]
  change (readString _).bind _ = _
  rw [read]
  simp

/-- The text of a value begins neither with a blank nor with a closing bracket. -/
theorem text_begins (json : Json) :
    ∃ c later, json.text.toList = c :: later ∧ isBlank c = false ∧ c ≠ ']' := by
  have digits (n : Nat) (after : List Char) :
      ∃ c later, Nat.toDigits 10 n ++ after = c :: later ∧ isBlank c = false ∧ c ≠ ']' := by
    obtain ⟨c, later, written, digit⟩ := toDigits_eq_cons n
    refine ⟨c, later ++ after, by rw [written, List.cons_append], isBlank_of_isDigit digit, ?_⟩
    rintro rfl
    cases digit
  cases json with
  | null => exact ⟨'n', _, rfl, rfl, by decide⟩
  | bool b => cases b <;> exact ⟨_, _, rfl, rfl, by decide⟩
  | integer n =>
    rw [text, toList_toString]
    split
    · exact ⟨'-', _, rfl, rfl, by decide⟩
    · simpa using digits n.natAbs []
  | real d =>
    rw [text, toList_decimalText]
    split
    · exact ⟨'-', _, rfl, rfl, by decide⟩
    · exact digits _ _
  | string s => exact ⟨'"', _, toList_stringText s, rfl, by decide⟩
  | array items => exact ⟨'[', _, toList_array items, rfl, by decide⟩
  | object members => exact ⟨'{', _, toList_object members, rfl, by decide⟩

/-- The characters of several texts begin as the first one does. -/
theorem separated_eq_cons {c : Char} {later : List Char} {text : String} (texts : List String)
    (begins : text.toList = c :: later) : ∃ more, separated (text :: texts) = c :: more := by
  cases texts with
  | nil => exact ⟨later, by rw [separated_singleton, begins]⟩
  | cons second texts => exact ⟨_, by rw [separated_cons_cons, begins, List.cons_append]⟩

theorem readValue_array {item : Json} {items : List Json} {after : List Char}
    (read : readItems fuel (separated (itemTexts (item :: items)) ++ after) =
      some (item :: items, rest)) :
    readValue (fuel + 1) ('[' :: (separated (itemTexts (item :: items)) ++ after)) =
      some (.array (item :: items), rest) := by
  obtain ⟨c, later, begins, solid, other⟩ := text_begins item
  obtain ⟨more, written⟩ := separated_eq_cons (itemTexts items) begins
  change separated (itemTexts (item :: items)) = _ at written
  rw [written, List.cons_append] at read ⊢
  have goesOn : readChar ']' (c :: (more ++ after)) = none := by
    rw [readChar_cons solid, if_neg other.symm]
  rw [readValue, skipBlanks, List.dropWhile_cons_of_neg (by decide)]
  simp only [goesOn, read, Option.bind_eq_bind, Option.bind_some]
  rfl

theorem toList_member (name : String) (value : Json) :
    (stringText name ++ ":" ++ value.text).toList =
      (stringText name).toList ++ ':' :: value.text.toList := by
  simp

theorem readValue_object {member : String × Json} {members : List (String × Json)}
    {after : List Char}
    (read : readMembers fuel (separated (memberTexts (member :: members)) ++ after) =
      some (member :: members, rest)) :
    readValue (fuel + 1) ('{' :: (separated (memberTexts (member :: members)) ++ after)) =
      some (.object (member :: members), rest) := by
  obtain ⟨name, value⟩ := member
  have begins := toList_member name value
  rw [toList_stringText, List.cons_append] at begins
  obtain ⟨more, written⟩ := separated_eq_cons (memberTexts members) begins
  change separated (memberTexts ((name, value) :: members)) = _ at written
  rw [written, List.cons_append] at read ⊢
  change (readMembers fuel _).bind _ = _
  rw [read]
  rfl

theorem readItems_last {item : Json} {s : List Char}
    (read : readValue fuel s = some (item, ']' :: rest)) :
    readItems (fuel + 1) s = some ([item], rest) := by
  rw [readItems, read]
  rfl

theorem readItems_more {item : Json} {items : List Json} {s more : List Char}
    (read : readValue fuel s = some (item, ',' :: more))
    (others : readItems fuel more = some (items, rest)) :
    readItems (fuel + 1) s = some (item :: items, rest) := by
  rw [readItems, read]
  simp only [Option.bind_eq_bind, Option.bind_some, readChar_cons (c := ',') rfl, if_true, others]
  rfl

theorem readMembers_member (name : String) (s : List Char) :
    readMembers (fuel + 1) ((stringText name).toList ++ ':' :: s) =
      (readValue fuel s).bind fun (value, rest) =>
        match readChar ',' rest with
        | some rest =>
          (readMembers fuel rest).map fun (members, rest) => ((name, value) :: members, rest)
        | none => (readChar '}' rest).map fun rest => ([(name, value)], rest) := by
  simp only [toList_stringText, List.cons_append, List.append_assoc, List.nil_append]
  rw [readMembers, readChar_cons rfl, if_pos rfl]
  simp only [Option.bind_eq_bind, Option.bind_some, readString_stringText, String.ofList_toList,
    Option.map_eq_bind]
  rw [readChar_cons rfl, if_pos rfl]
  rfl

theorem readMembers_last {name : String} {value : Json} {s : List Char}
    (read : readValue fuel s = some (value, '}' :: rest)) :
    readMembers (fuel + 1) ((stringText name).toList ++ ':' :: s) =
      some ([(name, value)], rest) := by
  rw [readMembers_member, read]
  rfl

theorem readMembers_more {name : String} {value : Json} {members : List (String × Json)}
    {s more : List Char} (read : readValue fuel s = some (value, ',' :: more))
    (others : readMembers fuel more = some (members, rest)) :
    readMembers (fuel + 1) ((stringText name).toList ++ ':' :: s) =
      some ((name, value) :: members, rest) := by
  rw [readMembers_member, read]
  simp only [Option.bind_some, readChar_cons (c := ',') rfl, if_true, others, Option.map_some]

/-- A value is read from the front of a text that begins with its own. -/
def Reads (json : Json) : Prop :=
  ∀ fuel rest, json.text.toList.length ≤ fuel → Closes rest →
    readValue fuel (json.text.toList ++ rest) = some (json, rest)

theorem reads_of_succ {json : Json}
    (h : ∀ fuel rest, json.text.toList.length ≤ fuel + 1 → Closes rest →
      readValue (fuel + 1) (json.text.toList ++ rest) = some (json, rest)) : Reads json := by
  intro fuel rest enough closes
  obtain ⟨c, later, begins, -⟩ := text_begins json
  cases fuel with
  | zero => simp [begins] at enough
  | succ fuel => exact h fuel rest enough closes

theorem readItems_texts {items : List Json} (reads : ∀ item ∈ items, Reads item)
    (nonempty : items ≠ []) (enough : (separated (itemTexts items)).length < fuel) :
    readItems fuel (separated (itemTexts items) ++ ']' :: rest) = some (items, rest) := by
  induction items generalizing fuel with
  | nil => exact absurd rfl nonempty
  | cons item items ih =>
    have first : Reads item := reads item List.mem_cons_self
    obtain ⟨fuel, rfl⟩ : ∃ less, fuel = less + 1 := ⟨fuel - 1, by omega⟩
    cases items with
    | nil =>
      simp only [itemTexts, separated_singleton] at enough ⊢
      exact readItems_last (first fuel _ (by omega) (closes_cons (by decide)))
    | cons next items =>
      have others := @ih fuel (fun item mem => reads item (List.mem_cons_of_mem _ mem)) (by simp)
      simp only [itemTexts, separated_cons_cons, List.length_append, List.length_cons,
        List.append_assoc, List.cons_append] at enough others ⊢
      exact readItems_more (first fuel _ (by omega) (closes_cons (.inl rfl))) (others (by omega))

theorem readMembers_texts {members : List (String × Json)}
    (reads : ∀ member ∈ members, Reads member.2) (nonempty : members ≠ [])
    (enough : (separated (memberTexts members)).length < fuel) :
    readMembers fuel (separated (memberTexts members) ++ '}' :: rest) = some (members, rest) := by
  induction members generalizing fuel with
  | nil => exact absurd rfl nonempty
  | cons member members ih =>
    obtain ⟨name, value⟩ := member
    have first : Reads value := reads (name, value) List.mem_cons_self
    obtain ⟨fuel, rfl⟩ : ∃ less, fuel = less + 1 := ⟨fuel - 1, by omega⟩
    cases members with
    | nil =>
      simp only [memberTexts, separated_singleton, toList_member, List.length_append,
        List.length_cons, List.append_assoc, List.cons_append] at enough ⊢
      exact readMembers_last (first fuel _ (by omega) (closes_cons (by decide)))
    | cons next members =>
      have others := @ih fuel (fun member mem => reads member (List.mem_cons_of_mem _ mem))
        (by simp)
      simp only [memberTexts, separated_cons_cons, toList_member, List.length_append,
        List.length_cons, List.append_assoc, List.cons_append] at enough others ⊢
      exact readMembers_more (first fuel _ (by omega) (closes_cons (.inl rfl))) (others (by omega))

theorem reads_array {items : List Json} (reads : ∀ item ∈ items, Reads item) :
    Reads (.array items) := by
  refine reads_of_succ fun fuel rest enough closes => ?_
  cases items with
  | nil => rfl
  | cons item items =>
    rw [toList_array] at enough ⊢
    simp only [List.length_cons, List.length_append, List.length_nil] at enough
    rw [List.cons_append, List.append_assoc]
    exact readValue_array (readItems_texts reads (by simp) (by omega))

theorem reads_object {members : List (String × Json)}
    (reads : ∀ member ∈ members, Reads member.2) : Reads (.object members) := by
  refine reads_of_succ fun fuel rest enough closes => ?_
  cases members with
  | nil => rfl
  | cons member members =>
    rw [toList_object] at enough ⊢
    simp only [List.length_cons, List.length_append, List.length_nil] at enough
    rw [List.cons_append, List.append_assoc]
    exact readValue_object (readMembers_texts reads (by simp) (by omega))

end Values

/-- Every value is read back, since the values in an array or an object are. -/
theorem reads (json : Json) : Reads json := by
  match json with
  | .null => exact reads_of_succ fun _ _ _ _ => rfl
  | .bool true => exact reads_of_succ fun _ _ _ _ => rfl
  | .bool false => exact reads_of_succ fun _ _ _ _ => rfl
  | .integer n => exact reads_of_succ fun _ _ _ closes => readValue_integer n closes
  | .real d => exact reads_of_succ fun _ _ _ closes => readValue_decimal d closes
  | .string s => exact reads_of_succ fun _ _ _ _ => readValue_string s
  | .array items => exact reads_array fun item mem => reads item
  | .object members => exact reads_object fun member mem => reads member.2
termination_by sizeOf json
decreasing_by
  · have := List.sizeOf_lt_of_mem mem
    simp only [Json.array.sizeOf_spec]
    omega
  · have := List.sizeOf_lt_of_mem mem
    obtain ⟨name, value⟩ := member
    simp only [Json.object.sizeOf_spec, Prod.mk.sizeOf_spec] at this ⊢
    omega

/-- The text of a value denotes that value. -/
theorem ofText?_text (json : Json) : ofText? json.text = some json := by
  have read := reads json (json.text.length + 1) [] (by rw [String.length_toList]; omega)
    closes_nil
  rw [List.append_nil] at read
  rw [ofText?, read]
  rfl

end ChartQuery.Json
