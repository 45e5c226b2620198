import ChartQuery.Proofs.Sql.Scan

/-!
# Reading a select list

The columns of the result of a query are named in its text. The select list is cut
at the commas outside quotes and brackets, and it ends where the word `FROM` stands
outside them. An item gives a column the name at its end: the name behind `AS`, or
the name that it consists of. Reading a list of items gives back the items, whatever
stands behind the list (`items?_select`).
-/

namespace ChartQuery

open Token

def namesIn (tokens : List Token) : List String :=
  tokens.filterMap fun
    | .quoted .name name => some name
    | _ => none

@[simp] theorem namesIn_nil : namesIn [] = [] := rfl

@[simp] theorem namesIn_name (name : String) (rest : List Token) :
    namesIn (.quoted .name name :: rest) = name :: namesIn rest := rfl

@[simp] theorem namesIn_text (text : String) (rest : List Token) :
    namesIn (.quoted .text text :: rest) = namesIn rest := rfl

@[simp] theorem namesIn_append (x y : List Token) : namesIn (x ++ y) = namesIn x ++ namesIn y :=
  List.filterMap_append

@[simp] theorem namesIn_spell (s : String) : namesIn (spell s) = [] := by
  simp [namesIn, spell]

theorem namesIn_intercalate {α : Type} (separator : String) (tokens : α → List Token)
    (list : List α) : namesIn ((spell separator).intercalate (list.map tokens)) =
      list.flatMap fun a => namesIn (tokens a) := by
  induction list with
  | nil => rfl
  | cons a list ih =>
    cases list with
    | nil => simp
    | cons b list =>
      rw [List.flatMap_cons, ← ih, List.map_cons, List.map_cons, List.intercalate_cons_cons]
      simp

namespace SelectList

/-- Cut a select list into its items. The depth tells how many brackets are open,
and the item is what has been read of it. -/
def cut : Nat → List Token → List Token → List (List Token)
  | _, item, [] => [item]
  | depth, item, token :: rest =>
    if depth = 0 ∧ token = .plain ' ' ∧ (spell "FROM ").isPrefixOf rest then [item]
    else
      match token with
      | .plain '(' => cut (depth + 1) (item ++ [token]) rest
      | .plain ')' => cut (depth - 1) (item ++ [token]) rest
      | .plain ',' =>
        if depth = 0 then item :: cut 0 [] rest else cut depth (item ++ [token]) rest
      | token => cut depth (item ++ [token]) rest

/-- The items of the select list of a query. Blanks in front of an item do not
count. -/
def items? (query : String) : Option (List (List Token)) :=
  if "SELECT ".toList.isPrefixOf query.toList then
    some <| (cut 0 [] ((Scan.of query).tokens.drop "SELECT ".length)).map
      (List.dropWhile (· == .plain ' '))
  else none

def columnName? (item : List Token) : Option String :=
  match item.getLast? with
  | some (.quoted .name name) => some name
  | _ => none

/-- The names of the columns that a query lists. There are none if it asks for all
columns of its source. -/
def columns? (query : String) : Option (List String) :=
  (items? query).bind fun items => items.mapM columnName?

/-- Tokens that are read into one item whatever follows. -/
def Passes (depth : Nat) (tokens : List Token) : Prop :=
  ∀ item rest, cut depth item (tokens ++ rest) = cut depth (item ++ tokens) rest

section Passes

variable {depth : Nat} {x y : List Token}

theorem passes_nil : Passes depth [] := fun item rest => by simp

theorem Passes.append (hx : Passes depth x) (hy : Passes depth y) : Passes depth (x ++ y) := by
  intro item rest
  rw [List.append_assoc, hx, hy, List.append_assoc]

theorem passes_quoted (quote : Quote) (content : String) :
    Passes depth [.quoted quote content] := by
  intro item rest
  simp [cut]

def isOrdinary (depth : Nat) (c : Char) : Bool :=
  c != '(' && c != ')' && (depth != 0 || (c != ',' && c != ' '))

theorem passes_char {c : Char} (h : isOrdinary depth c) : Passes depth [.plain c] := by
  intro item rest
  simp only [isOrdinary, Bool.and_eq_true, bne_iff_ne, Bool.or_eq_true, ne_eq] at h
  obtain ⟨⟨notOpen, notClose⟩, inside | ⟨notComma, notBlank⟩⟩ := h
  · by_cases comma : c = ','
    · simp [cut, comma, inside]
    · simp [cut, inside, notOpen, notClose, comma]
  · simp [cut, notOpen, notClose, notComma, notBlank]

theorem passes_spell {s : String} (h : s.toList.all (isOrdinary depth)) :
    Passes depth (spell s) := by
  unfold spell
  generalize s.toList = chars at h
  induction chars with
  | nil => exact passes_nil
  | cons c rest ih =>
    simp only [List.all_cons, Bool.and_eq_true] at h
    exact (passes_char h.1).append (ih h.2)

/-- What stands in brackets belongs together. -/
theorem Passes.brackets (h : Passes (depth + 1) x) :
    Passes depth (spell "(" ++ x ++ spell ")") := by
  intro item rest
  have opens (more : List Token) : cut depth item (.plain '(' :: more) =
      cut (depth + 1) (item ++ [.plain '(']) more := by
    simp [cut]
  have closes (item : List Token) : cut (depth + 1) item (.plain ')' :: rest) =
      cut depth (item ++ [.plain ')']) rest := by
    simp [cut]
  change cut depth item (.plain '(' :: (x ++ [.plain ')'] ++ rest)) =
    cut depth (item ++ (.plain '(' :: (x ++ [.plain ')']))) rest
  rw [opens, List.append_assoc, h, List.singleton_append, closes]
  simp

theorem Passes.call {word : String} (h : word.toList.all (isOrdinary depth))
    (arguments : Passes (depth + 1) x) :
    Passes depth (spell word ++ (spell "(" ++ x ++ spell ")")) :=
  (passes_spell h).append arguments.brackets

/-- A blank does not end the list unless the word `FROM` follows it. -/
theorem passes_alias (name : String) :
    Passes depth (spell " AS " ++ [.quoted .name name]) := by
  intro item rest
  change cut depth item (.plain ' ' :: .plain 'A' :: .plain 'S' :: .plain ' ' ::
    .quoted .name name :: rest) = _
  simp [cut, spell]

theorem passes_intercalate {α : Type} {tokens : α → List Token} {list : List α}
    (h : ∀ a ∈ list, Passes (depth + 1) (tokens a)) :
    Passes (depth + 1) ((spell ", ").intercalate (list.map tokens)) := by
  induction list with
  | nil => exact passes_nil
  | cons a list ih =>
    have first := h a (by simp)
    cases list with
    | nil => simpa using first
    | cons b list =>
      have separator : Passes (depth + 1) (spell ", ") := passes_spell (by
        change [',', ' '].all (isOrdinary (depth + 1))
        simp [isOrdinary])
      rw [List.map_cons, List.map_cons, List.intercalate_cons_cons, List.append_assoc]
      exact first.append (separator.append (ih fun b mem => h b (by simp [mem])))

end Passes

/-- A text that is read as one item of a select list. -/
structure IsItem (text : String) (tokens : List Token) : Prop where
  scans : Scans text tokens
  passes : Passes 0 tokens
  begins : ∃ token rest, tokens = token :: rest ∧ token ≠ .plain ' ' ∧ token ≠ .plain 'F'

theorem isItem_quoteName (name : String) : IsItem (quoteName name) [.quoted .name name] where
  scans := scans_quoteName name
  passes := passes_quoted .name name
  begins := ⟨_, _, rfl, by simp⟩

theorem IsItem.named {s : String} {x : List Token} (h : IsItem s x) (name : String) :
    IsItem (s ++ " AS " ++ quoteName name) (x ++ (spell " AS " ++ [.quoted .name name])) where
  scans := by
    have named := Scans.spell_append (by decide : Plain " AS ") (scans_quoteName name)
    rw [String.append_assoc]
    exact h.scans.append named ((by decide : Plain " AS ").apart_append (by decide) _)
  passes := h.passes.append (passes_alias name)
  begins := by
    obtain ⟨token, rest, rfl, different⟩ := h.begins
    exact ⟨token, _, rfl, different⟩

theorem columnName?_named (x : List Token) (name : String) :
    columnName? (x ++ (spell " AS " ++ [.quoted .name name])) = some name := by
  rw [columnName?, ← List.append_assoc, List.getLast?_concat]

section Items

variable {α : Type} {text : α → String} {tokens : α → List Token} {list : List α}

theorem IsItem.dropBlanks {s : String} {x : List Token} (h : IsItem s x) :
    x.dropWhile (· == .plain ' ') = x := by
  obtain ⟨token, rest, rfl, notBlank, -⟩ := h.begins
  rw [List.dropWhile_cons_of_neg (by simpa using notBlank)]

/-- A blank in front of an item does not end the list. -/
theorem cut_blank {a : α} (h : IsItem (text a) (tokens a)) (rest : List Token) :
    cut 0 [] (.plain ' ' :: (tokens a ++ rest)) = cut 0 [.plain ' '] (tokens a ++ rest) := by
  obtain ⟨token, more, begins, -, notFrom⟩ := h.begins
  have other : ¬(spell "FROM ").isPrefixOf (tokens a ++ rest) := by
    rw [begins]
    change ¬(.plain 'F' :: _ : List Token).isPrefixOf (token :: _)
    simp [List.isPrefixOf, Ne.symm notFrom]
  simp [cut, other]

/-- Items with commas between them are read one by one, up to the word `FROM`. -/
theorem cut_items (a : α) (before rest : List Token)
    (h : ∀ b ∈ a :: list, IsItem (text b) (tokens b)) :
    cut 0 before ((spell ", ").intercalate ((a :: list).map tokens) ++ (spell " FROM " ++ rest)) =
      (before ++ tokens a) :: list.map fun b => .plain ' ' :: tokens b := by
  have first := (h a (by simp)).passes
  induction list generalizing a before with
  | nil =>
    rw [List.map_singleton, List.intercalate_singleton, first]
    simp [cut, spell]
  | cons b list ih =>
    have next := h b (by simp)
    have others := ih b [.plain ' '] (fun c mem => h c (by simp [List.mem_cons.1 mem])) next.passes
    obtain ⟨more, behind⟩ : ∃ more, (spell ", ").intercalate ((b :: list).map tokens) ++
        (spell " FROM " ++ rest) = tokens b ++ more := by
      cases list with
      | nil => exact ⟨_, by rw [List.map_singleton, List.intercalate_singleton]⟩
      | cons c list =>
        rw [List.map_cons, List.map_cons, List.intercalate_cons_cons, List.append_assoc,
          List.append_assoc]
        exact ⟨_, rfl⟩
    have comma (more : List Token) : cut 0 (before ++ tokens a) (spell ", " ++ more) =
        (before ++ tokens a) :: cut 0 [] (.plain ' ' :: more) := by
      simp [cut, spell]
    rw [List.map_cons, List.map_cons, List.intercalate_cons_cons, ← List.map_cons,
      List.append_assoc, List.append_assoc, first, behind, comma, cut_blank next, ← behind, others]
    simp

theorem scans_items (h : ∀ a ∈ list, IsItem (text a) (tokens a)) :
    Scans (commaSeparated (list.map text)) ((spell ", ").intercalate (list.map tokens)) :=
  scans_intercalate (by decide : Plain ", ") (by decide) fun a mem => (h a mem).scans

/-- The select list of a query is scanned by itself, and so is what stands behind it. -/
theorem scan_select (rest : String) (h : ∀ a ∈ list, IsItem (text a) (tokens a)) :
    Scan.of ("SELECT " ++ (commaSeparated (list.map text) ++ (" FROM " ++ rest))) =
      (Scan.of rest).after (spell "SELECT " ++ ((spell ", ").intercalate (list.map tokens) ++
        spell " FROM ")) := by
  have keyword : Plain "SELECT " := by decide
  have from_ : Plain " FROM " := by decide
  rw [keyword.of_append, (scans_items h).of_append (from_.apart_append (by decide) rest),
    from_.of_append, Scan.after_after, Scan.after_after, List.append_assoc]

theorem items?_select (rest : String) (some : list ≠ [])
    (h : ∀ a ∈ list, IsItem (text a) (tokens a)) :
    items? ("SELECT " ++ (commaSeparated (list.map text) ++ (" FROM " ++ rest))) =
      .some (list.map tokens) := by
  obtain ⟨a, list, rfl⟩ := List.exists_cons_of_ne_nil some
  have begins : "SELECT ".toList.isPrefixOf ("SELECT " ++ (commaSeparated ((a :: list).map text) ++
      (" FROM " ++ rest))).toList := by
    rw [List.isPrefixOf_iff_prefix, String.toList_append]
    exact List.prefix_append ..
  have length : "SELECT ".length = (spell "SELECT ").length := by decide
  rw [items?, if_pos begins, scan_select rest h, Scan.tokens_after, length, List.append_assoc,
    List.drop_left, List.append_assoc, cut_items a [] _ h]
  have cleared (b : α) (mem : b ∈ a :: list) := (h b mem).dropBlanks
  simp only [List.nil_append, List.map_cons, List.map_map, cleared a (by simp)]
  congr 2
  refine List.map_congr_left fun b mem => ?_
  rw [Function.comp_apply, List.dropWhile_cons_of_pos (by simp), cleared b (by simp [mem])]

theorem mapM_columnName? {name : α → String}
    (named : ∀ a ∈ list, columnName? (tokens a) = .some (name a)) :
    (list.map tokens).mapM columnName? = .some (list.map name) := by
  induction list with
  | nil => rfl
  | cons a list ih => simp [named a (by simp), ih fun b mem => named b (by simp [mem])]

theorem columns?_select {name : α → String} (rest : String) (some : list ≠ [])
    (h : ∀ a ∈ list, IsItem (text a) (tokens a))
    (named : ∀ a ∈ list, columnName? (tokens a) = .some (name a)) :
    columns? ("SELECT " ++ (commaSeparated (list.map text) ++ (" FROM " ++ rest))) =
      .some (list.map name) := by
  rw [columns?, items?_select rest some h, Option.bind_some, mapM_columnName? named]

end Items

end SelectList

end ChartQuery
