import ChartQuery.Proofs.Sql.Scan

/-!
# Lexemes

A text of SQL is cut into words, signs and quoted texts. Blanks and comments stand between
them and do not count otherwise. The text is read one character at a time, so what is
found in two texts, one after the other, is what is found in the first and then, from
where that ends, in the second (`Lexer.Reads.append`). A text is whole if the end of a
line brings it to an end: its quotes and comments are closed.
-/

namespace ChartQuery

inductive Lexeme where
  | word (letters : List Char)
  | sign (c : Char)
  | quoted (quote : Quote) (content : List Char)
  deriving DecidableEq, Repr

def Lexeme.keyword (s : String) : Lexeme := .word s.toList

namespace Lexer

def isWordChar (c : Char) : Bool :=
  !Text.isSpace c && (c.isAlphanum || c == '_' || c == '$' || 0x7F < c.toNat)

/-- Where a reading stands, and what it has read of a lexeme. -/
inductive Mode where
  | between
  | word (letters : List Char)
  /-- After a sign, which may be the first of two that begin a comment. -/
  | sign (c : Char)
  | inside (quote : Quote) (content : List Char)
  /-- After a quote that ends the text inside, or is the first of two. -/
  | closing (quote : Quote) (content : List Char)
  /-- In a comment up to the end of the line. -/
  | line
  /-- In comments, one inside another, after some character of theirs. -/
  | block (depth : Nat) (last : Char)
  deriving DecidableEq, Repr

def begin (c : Char) : Mode :=
  match Quote.ofChar? c with
  | some quote => .inside quote []
  | none => if Text.isSpace c then .between else if isWordChar c then .word [c] else .sign c

/-- Read one character. It may be the first behind a lexeme, which is found then. -/
def step : Mode → Char → List Lexeme × Mode
  | .between, c => ([], begin c)
  | .word letters, c =>
    if isWordChar c then ([], .word (letters ++ [c])) else ([.word letters], begin c)
  | .sign first, c =>
    if first = '-' ∧ c = '-' then ([], .line)
    else if first = '/' ∧ c = '*' then ([], .block 0 ' ')
    else ([.sign first], begin c)
  | .inside quote content, c =>
    if c = quote.char then ([], .closing quote content)
    else ([], .inside quote (content ++ [c]))
  | .closing quote content, c =>
    if c = quote.char then ([], .inside quote (content ++ [c]))
    else ([.quoted quote content], begin c)
  | .line, c => if c = '\n' then ([], .between) else ([], .line)
  | .block depth last, c =>
    if last = '*' ∧ c = '/' then
      match depth with
      | 0 => ([], .between)
      | depth + 1 => ([], .block depth ' ')
    else if last = '/' ∧ c = '*' then ([], .block (depth + 1) ' ')
    else ([], .block depth c)

def run : Mode → List Char → List Lexeme × Mode
  | mode, [] => ([], mode)
  | mode, c :: rest =>
    ((step mode c).1 ++ (run (step mode c).2 rest).1, (run (step mode c).2 rest).2)

/-- From one mode to another, a text has these lexemes. -/
def Reads (mode : Mode) (s : List Char) (lexemes : List Lexeme) (mode' : Mode) : Prop :=
  run mode s = (lexemes, mode')

section Reads

variable {mode mode' mode'' : Mode} {s t : List Char} {x y : List Lexeme}

theorem reads_run (mode : Mode) (s : List Char) : Reads mode s (run mode s).1 (run mode s).2 := rfl

theorem Reads.append (h : Reads mode s x mode') (k : Reads mode' t y mode'') :
    Reads mode (s ++ t) (x ++ y) mode'' := by
  induction s generalizing mode x with
  | nil =>
    cases h
    exact k
  | cons c s ih =>
    cases h
    have rest := ih (reads_run _ _)
    unfold Reads at rest ⊢
    rw [List.cons_append, run, rest, List.append_assoc]

theorem Reads.cons {c : Char} (h : step mode c = (x, mode')) (k : Reads mode' s y mode'') :
    Reads mode (c :: s) (x ++ y) mode'' := by
  unfold Reads at k ⊢
  rw [run, h, k]

theorem reads_char (mode : Mode) (c : Char) : Reads mode [c] (step mode c).1 (step mode c).2 := by
  simp [Reads, run]

theorem step_quote {quote : Quote} {content : List Char} :
    step (.inside quote content) quote.char = ([], .closing quote content) := if_pos rfl

theorem step_second {quote : Quote} {content : List Char} :
    step (.closing quote content) quote.char = ([], .inside quote (content ++ [quote.char])) :=
  if_pos rfl

theorem step_other {quote : Quote} {content : List Char} {c : Char} (h : c ≠ quote.char) :
    step (.inside quote content) c = ([], .inside quote (content ++ [c])) := if_neg h

theorem reads_double (quote : Quote) (content s : List Char) :
    Reads (.inside quote content) (Quoted.double quote.char s ++ [quote.char]) []
      (.closing quote (content ++ s)) := by
  induction s generalizing content with
  | nil => simpa [Quoted.double, step_quote] using reads_char (.inside quote content) quote.char
  | cons c s ih =>
    have rest := ih (content ++ [c])
    rw [List.append_assoc, List.singleton_append] at rest
    by_cases same : c = quote.char
    · subst same
      rw [Quoted.double, if_pos rfl]
      exact .cons step_quote (.cons step_second rest)
    · rw [Quoted.double, if_neg same]
      exact .cons (step_other same) rest

/-- A quoted text is read up to its last quote, whatever it holds. -/
theorem reads_write (quote : Quote) (s : List Char) :
    Reads .between (Quoted.write quote.char s) [] (.closing quote s) := by
  have opens : step .between quote.char = ([], .inside quote []) := by
    simp [step, begin]
  exact .cons opens (reads_double quote [] s)

end Reads

/-- The lexemes of a text, with what the end of its line brings to an end. -/
def lexemes (s : String) : List Lexeme := (run .between (s.toList ++ ['\n'])).1

/-- The end of the line brings the text to an end. -/
def IsWhole (s : String) : Prop := (run .between (s.toList ++ ['\n'])).2 = .between

def EndsInComment (s : String) : Prop := (run .between s.toList).2 = .line

instance (s : String) : Decidable (IsWhole s) := inferInstanceAs (Decidable (_ = _))

instance (s : String) : Decidable (EndsInComment s) := inferInstanceAs (Decidable (_ = _))

/-- Outside comments, a blank is as good as the end of the line. -/
theorem step_blank {mode : Mode} (outside : mode ≠ .line)
    (ends : (step mode '\n').2 = .between) : step mode ' ' = step mode '\n' := by
  cases mode with
  | between => rfl
  | word letters => rfl
  | sign c => simp [step, begin, Text.isSpace, Quote.ofChar?]
  | inside quote content => cases quote <;> cases ends
  | closing quote content => cases quote <;> rfl
  | line => exact absurd rfl outside
  | block depth last => simp [step] at ends

/-- A whole text that does not end in a comment is read up to a blank behind it. -/
theorem IsWhole.reads_blank {s : String} (whole : IsWhole s) (closed : ¬EndsInComment s) :
    Reads .between (s.toList ++ [' ']) (lexemes s) .between := by
  obtain ⟨x, mode, first⟩ : ∃ x mode, Reads .between s.toList x mode := ⟨_, _, rfl⟩
  have outside : mode ≠ .line := fun same => closed (by rw [EndsInComment, first, same])
  have line := first.append (reads_char mode '\n')
  have ends : (step mode '\n').2 = .between := by rw [← whole, line]
  have found : lexemes s = x ++ (step mode '\n').1 := by rw [lexemes, line]
  have blank := first.append (reads_char mode ' ')
  rwa [step_blank outside ends, ends, ← found] at blank

section Behind

variable {s : String} (whole : IsWhole s) (closed : ¬EndsInComment s) (t : String)

include whole closed

/-- What stands behind a whole text and a blank is read by itself. -/
theorem run_behind (more : List Char) : run .between ((s ++ " " ++ t).toList ++ more) =
    (lexemes s ++ (run .between (t.toList ++ more)).1, (run .between (t.toList ++ more)).2) := by
  rw [String.toList_append, String.toList_append, List.append_assoc]
  exact (whole.reads_blank closed).append (reads_run .between (t.toList ++ more))

theorem lexemes_append : lexemes (s ++ " " ++ t) = lexemes s ++ lexemes t :=
  congrArg Prod.fst (run_behind whole closed t ['\n'])

theorem isWhole_append : IsWhole (s ++ " " ++ t) ↔ IsWhole t := by
  rw [IsWhole, run_behind whole closed t, IsWhole]

theorem endsInComment_append : EndsInComment (s ++ " " ++ t) ↔ EndsInComment t := by
  have behind := run_behind whole closed t []
  simp only [List.append_nil] at behind
  rw [EndsInComment, behind, EndsInComment]

end Behind

theorem lexemes_word {word : String} {letters : List Char}
    (reads : Reads .between (word.toList ++ [' ']) [.word letters] .between) (t : String) :
    lexemes (word ++ " " ++ t) = .word letters :: lexemes t := by
  have all := reads.append (reads_run .between (t.toList ++ ['\n']))
  rw [lexemes, String.toList_append, String.toList_append, List.append_assoc]
  exact congrArg Prod.fst all

end Lexer

end ChartQuery
