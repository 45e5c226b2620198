import ChartQuery.Proofs.Sql.Sources

/-!
# Scanning SQL

A scan goes through a text from left to right, and tells what stands in quotes
from what stands outside. Nothing is lost by it (`Scans.toList_eq`). A text after
which the scan is outside quotes again is closed. Closed texts are scanned one
after another by themselves (`Scan.of_append`), unless a quote would follow a
quote: the two would be taken for one quote that is written twice.
-/

namespace ChartQuery

/-- The two kinds of quotes: those around names and those around texts. -/
inductive Quote where
  | name
  | text
  deriving DecidableEq, Repr

namespace Quote

def char : Quote → Char
  | name => '"'
  | text => '\x27'

def ofChar? (c : Char) : Option Quote :=
  if c = '"' then some name else if c = '\x27' then some text else none

theorem ofChar?_eq_some {c : Char} {quote : Quote} (h : ofChar? c = some quote) :
    c = quote.char := by
  unfold ofChar? at h
  split at h
  · cases h
    assumption
  · split at h
    · cases h
      assumption
    · cases h

@[simp] theorem ofChar?_char (quote : Quote) : ofChar? quote.char = some quote := by
  cases quote <;> decide

end Quote

/-- What a scan finds: a character outside quotes, or a quoted text. The quotes
that are written twice in a quoted text stand once in its content. -/
inductive Token where
  | plain (c : Char)
  | quoted (quote : Quote) (content : String)
  deriving DecidableEq, Repr

namespace Token

def spell (s : String) : List Token := s.toList.map plain

def chars : Token → List Char
  | plain c => [c]
  | quoted quote content => Quoted.write quote.char content.toList

def isQuoted : Token → Bool
  | plain _ => false
  | quoted .. => true

end Token

open Token

/-- Where a scan stands. Inside quotes it holds what it has read of the content. -/
inductive Place where
  | outside
  | inside (quote : Quote) (content : List Char)
  deriving DecidableEq, Repr

def Place.chars : Place → List Char
  | outside => []
  | inside quote content => quote.char :: Quoted.double quote.char content

structure Scan where
  tokens : List Token
  place : Place
  deriving DecidableEq, Repr

namespace Scan

def after (tokens : List Token) (scan : Scan) : Scan :=
  { scan with tokens := tokens ++ scan.tokens }

@[simp] theorem tokens_after (tokens : List Token) (scan : Scan) :
    (scan.after tokens).tokens = tokens ++ scan.tokens := rfl

@[simp] theorem place_after (tokens : List Token) (scan : Scan) :
    (scan.after tokens).place = scan.place := rfl

@[simp] theorem after_after (first last : List Token) (scan : Scan) :
    (scan.after last).after first = scan.after (first ++ last) := by
  simp [after]

/-- Scan a text from a place on. Inside quotes a quote that stands twice belongs
to the content, and one that stands alone is the end. -/
def run : Place → List Char → Scan
  | .outside, [] => ⟨[], .outside⟩
  | .outside, c :: rest =>
    match Quote.ofChar? c with
    | some quote => run (.inside quote []) rest
    | none => (run .outside rest).after [.plain c]
  | .inside quote content, [] => ⟨[], .inside quote content⟩
  | .inside quote content, c :: rest =>
    if c = quote.char then
      match rest with
      | [] => ⟨[.quoted quote (String.ofList content)], .outside⟩
      | d :: rest =>
        if d = quote.char then run (.inside quote (content ++ [d])) rest
        else (run .outside (d :: rest)).after [.quoted quote (String.ofList content)]
    else run (.inside quote (content ++ [c])) rest

def of (s : String) : Scan := run .outside s.toList

section Steps

variable {quote : Quote} {content rest : List Char} {c : Char}

@[simp] theorem run_nil (place : Place) : run place [] = ⟨[], place⟩ := by
  cases place <;> rfl

theorem run_opens (h : Quote.ofChar? c = some quote) :
    run .outside (c :: rest) = run (.inside quote []) rest := by
  rw [run, h]

theorem run_plain (h : Quote.ofChar? c = none) :
    run .outside (c :: rest) = (run .outside rest).after [.plain c] := by
  rw [run, h]

theorem run_other (h : c ≠ quote.char) :
    run (.inside quote content) (c :: rest) = run (.inside quote (content ++ [c])) rest := by
  cases rest <;> simp [run, h]

theorem run_twice :
    run (.inside quote content) (quote.char :: quote.char :: rest) =
      run (.inside quote (content ++ [quote.char])) rest := by
  simp [run]

theorem run_ends (h : rest.head? ≠ some quote.char) :
    run (.inside quote content) (quote.char :: rest) =
      (run .outside rest).after [.quoted quote (String.ofList content)] := by
  cases rest with
  | nil => simp [run, after]
  | cons d rest =>
    have other : d ≠ quote.char := by simpa using h
    simp only [run, if_true, if_neg other]

end Steps

theorem head_of_apart {s : List Char} (apart : s.head?.bind Quote.ofChar? = none)
    (quote : Quote) : s.head? ≠ some quote.char := by
  intro same
  simp [same] at apart

/-- What follows a text is scanned from the place where the text ends. -/
theorem run_append (place : Place) (first last : List Char)
    (apart : last.head?.bind Quote.ofChar? = none) :
    run place (first ++ last) =
      (run (run place first).place last).after (run place first).tokens := by
  fun_induction run place first with
  | case1 => rfl
  | case2 c rest quote h ih => rw [List.cons_append, run_opens h, ih]
  | case3 c rest h ih => simp [run_plain h, ih]
  | case4 => rfl
  | case5 quote content =>
    exact run_ends (head_of_apart apart quote)
  | case6 quote content rest ih => simpa [run_twice] using ih
  | case7 quote content d rest other ih =>
    rw [List.cons_append, run_ends (by simpa using other), ih]
    simp
  | case8 quote content c rest other ih => rw [List.cons_append, run_other other, ih]

/-- Outside quotes, a text without quotes is found as it stands, whatever follows. -/
theorem run_outside {s : List Char} (plain : ∀ c ∈ s, Quote.ofChar? c = none)
    (rest : List Char) : run .outside (s ++ rest) = (run .outside rest).after (s.map .plain) := by
  induction s with
  | nil => rfl
  | cons c s ih =>
    rw [List.cons_append, run_plain (plain c (by simp)), ih fun d mem => plain d (by simp [mem])]
    simp

theorem run_inside (quote : Quote) (content : List Char) {s : List Char}
    (plain : ∀ c ∈ s, Quote.ofChar? c = none) :
    run (.inside quote content) s = ⟨[], .inside quote (content ++ s)⟩ := by
  induction s generalizing content with
  | nil => simp
  | cons c s ih =>
    have other : c ≠ quote.char := by
      rintro rfl
      simpa using plain quote.char (by simp)
    rw [run_other other, ih _ fun d mem => plain d (by simp [mem])]
    simp

theorem run_double (quote : Quote) (content s : List Char) :
    run (.inside quote content) (Quoted.double quote.char s ++ [quote.char]) =
      ⟨[.quoted quote (String.ofList (content ++ s))], .outside⟩ := by
  induction s generalizing content with
  | nil =>
    rw [Quoted.double, List.nil_append, run_ends (by simp)]
    simp [after]
  | cons c s ih =>
    by_cases same : c = quote.char
    · subst same
      simp only [Quoted.double, if_true, List.cons_append, run_twice, ih, List.append_assoc,
        List.nil_append]
    · simp only [Quoted.double, if_neg same, List.cons_append, run_other same, ih,
        List.append_assoc, List.nil_append]

/-- A quoted text is one token, whatever it holds. -/
theorem run_write (quote : Quote) (s : List Char) :
    run .outside (Quoted.write quote.char s) =
      ⟨[.quoted quote (String.ofList s)], .outside⟩ := by
  rw [Quoted.write, run_opens (Quote.ofChar?_char quote), run_double, List.nil_append]

theorem double_append (quote : Char) (s t : List Char) :
    Quoted.double quote (s ++ t) = Quoted.double quote s ++ Quoted.double quote t := by
  induction s with
  | nil => rfl
  | cons c s ih => by_cases h : c = quote <;> simp [Quoted.double, h, ih]

/-- Tokens and place tell the whole text. -/
theorem chars_run (place : Place) (s : List Char) :
    (run place s).tokens.flatMap Token.chars ++ (run place s).place.chars =
      place.chars ++ s := by
  fun_induction run place s with
  | case1 => rfl
  | case2 c rest quote h ih =>
    rw [ih, Quote.ofChar?_eq_some h]
    rfl
  | case3 c rest h ih => simpa [Token.chars, Place.chars] using ih
  | case4 => simp
  | case5 quote content => simp [Place.chars, Token.chars, Quoted.write]
  | case6 quote content rest ih =>
    rw [ih]
    simp [Place.chars, double_append, Quoted.double]
  | case7 quote content d rest other ih =>
    simp only [tokens_after, place_after, List.flatMap_append, List.append_assoc, ih]
    simp [Place.chars, Token.chars, Quoted.write]
  | case8 quote content c rest other ih =>
    rw [ih]
    simp [Place.chars, double_append, Quoted.double, other]

end Scan

/-- A text that leaves a scan outside quotes. -/
def Closed (s : String) : Prop := (Scan.of s).place = .outside

instance (s : String) : Decidable (Closed s) := inferInstanceAs (Decidable (_ = _))

/-- A text with no quote at its front, so that it may follow a quoted text. -/
def Apart (s : String) : Prop := s.toList.head?.bind Quote.ofChar? = none

instance (s : String) : Decidable (Apart s) := inferInstanceAs (Decidable (_ = _))

def Plain (s : String) : Prop := ∀ c ∈ s.toList, Quote.ofChar? c = none

instance (s : String) : Decidable (Plain s) := List.decidableBAll _ s.toList

theorem Apart.append {s t : String} (hs : Apart s) (ht : Apart t) : Apart (s ++ t) := by
  unfold Apart at *
  rw [String.toList_append]
  cases h : s.toList with
  | nil => simpa [h] using ht
  | cons c rest => simpa [h] using hs

namespace Plain

variable {s t : String}

theorem apart_append (h : Plain s) (some : s ≠ "") (t : String) : Apart (s ++ t) := by
  unfold Apart
  rw [String.toList_append]
  cases chars : s.toList with
  | nil => exact absurd (String.toList_eq_nil_iff.1 chars) some
  | cons c rest => simpa using h c (by simp [chars])

theorem of_append (h : Plain s) (t : String) : Scan.of (s ++ t) = (Scan.of t).after (spell s) := by
  rw [Scan.of, String.toList_append, Scan.run_outside h]
  rfl

end Plain

def Scans (s : String) (tokens : List Token) : Prop := Scan.of s = ⟨tokens, .outside⟩

theorem Closed.scans {s : String} (h : Closed s) : Scans s (Scan.of s).tokens := by
  rw [Scans, ← h]

theorem Plain.scans {s : String} (h : Plain s) : Scans s (spell s) := by
  have := Scan.run_outside h []
  rw [List.append_nil] at this
  simp [Scans, Scan.of, this, Scan.after, spell]

namespace Scans

variable {s t : String} {x y : List Token}

theorem closed (h : Scans s x) : Closed s := by
  rw [Closed, h]

theorem tokens_eq (h : Scans s x) : (Scan.of s).tokens = x := by
  rw [h]

theorem unique (h : Scans s x) (k : Scans s y) : x = y :=
  h.tokens_eq.symm.trans k.tokens_eq

theorem toList_eq (h : Scans s x) : s.toList = x.flatMap Token.chars := by
  have whole := Scan.chars_run .outside s.toList
  have found : Scan.run .outside s.toList = ⟨x, .outside⟩ := h
  rw [found] at whole
  simpa [Place.chars] using whole.symm

/-- What follows a closed text is scanned by itself. -/
theorem of_append (h : Scans s x) (apart : Apart t) :
    Scan.of (s ++ t) = (Scan.of t).after x := by
  have found : Scan.run .outside s.toList = ⟨x, .outside⟩ := h
  rw [Scan.of, String.toList_append, Scan.run_append _ _ _ apart, found]
  rfl

theorem append (h : Scans s x) (k : Scans t y) (apart : Apart t) : Scans (s ++ t) (x ++ y) := by
  rw [Scans, h.of_append apart, k]
  rfl

theorem spell_append (h : Plain s) (k : Scans t y) : Scans (s ++ t) (spell s ++ y) := by
  rw [Scans, h.of_append, k]
  rfl

end Scans

theorem scans_quoteName (name : String) : Scans (quoteName name) [.quoted .name name] := by
  have := Scan.run_write .name name.toList
  simpa [Scans, Scan.of, quoteName, Quote.char] using this

theorem scans_quoteText (text : String) : Scans (quoteText text) [.quoted .text text] := by
  have := Scan.run_write .text text.toList
  simpa [Scans, Scan.of, quoteText, Quote.char] using this

theorem scans_intercalate {α : Type} {separator : String} {text : α → String}
    {tokens : α → List Token} {list : List α} (plain : Plain separator) (some : separator ≠ "")
    (scans : ∀ a ∈ list, Scans (text a) (tokens a)) :
    Scans (separator.intercalate (list.map text))
      ((spell separator).intercalate (list.map tokens)) := by
  induction list with
  | nil => rfl
  | cons a list ih =>
    have first := scans a (by simp)
    cases list with
    | nil => simpa using first
    | cons b list =>
      have rest := ih fun b mem => scans b (by simp [mem])
      have joined := first.append (Scans.spell_append plain rest) (plain.apart_append some _)
      rw [List.map_cons, String.intercalate_cons_of_ne_nil (by simp), String.append_assoc]
      simpa using joined

theorem scans_nameList (names : List String) :
    Scans (nameList names)
      ((spell ", ").intercalate (names.map fun name => [.quoted .name name])) :=
  scans_intercalate (by decide : Plain ", ") (by decide) fun name _ => scans_quoteName name

end ChartQuery
