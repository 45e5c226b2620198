import ChartQuery.Proofs.Run.Sending
import Mathlib.Data.List.DropRight

/-!
# The text of a pre-query

A pre-query loses the white space around it, and then the semicolons at its end. It is
not looked at again, so white space before a semicolon stays, and so do the semicolons
before that white space. What goes away as a whole is a plain end (`PlainEnd`).

The first part is about ends of texts in general, and the second about the first
statement of a run.

Main statement: `pre_query_loses_plain_end`.
-/

namespace ChartQuery

namespace Text

theorem dropEnd_isPrefix (p : Char → Bool) (s : List Char) : dropEnd p s <+: s :=
  List.rdropWhile_prefix p s

theorem dropEnd_eq_nil_iff {p : Char → Bool} {s : List Char} : dropEnd p s = [] ↔ s.all p := by
  simp [dropEnd]

/-- If nothing is left of the second part, the first part loses its end too. -/
theorem dropEnd_append (p : Char → Bool) (s t : List Char) :
    dropEnd p (s ++ t) = if dropEnd p t = [] then dropEnd p s else s ++ dropEnd p t := by
  simp only [dropEnd, List.reverse_append, List.dropWhile_append, List.isEmpty_iff,
    List.reverse_eq_nil_iff]
  split <;> simp

theorem dropEnd_eq_self {p q : Char → Bool} (apart : ∀ c, p c → q c = false) {s : List Char}
    (ends : dropEnd p s ≠ s) : dropEnd q s = s := by
  rcases List.eq_nil_or_concat s with rfl | ⟨front, c, rfl⟩
  · rfl
  · by_cases last : p c
    · simp [dropEnd, apart c last]
    · simp [dropEnd, last] at ends

/-- White space at the end is dropped, and then the semicolons at the end. -/
def strip (s : List Char) : List Char := dropEnd (· == ';') (dropEnd isSpace s)

/-- Semicolons, with white space behind them only. -/
def PlainEnd (s : List Char) : Prop :=
  ∃ n blanks, s = List.replicate n ';' ++ blanks ∧ blanks.all isSpace

theorem length_strip_le (s : List Char) : (strip s).length ≤ (dropEnd isSpace s).length :=
  (dropEnd_isPrefix _ _).length_le

theorem strip_eq_nil_iff {s : List Char} : strip s = [] ↔ PlainEnd s := by
  rw [strip, dropEnd_eq_nil_iff]
  constructor
  · intro semicolons
    refine ⟨(dropEnd isSpace s).length, s.rtakeWhile isSpace, ?_, ?_⟩
    · have same : dropEnd isSpace s = List.replicate (dropEnd isSpace s).length ';' :=
        List.eq_replicate_of_mem fun c mem => by simpa using List.all_eq_true.1 semicolons c mem
      rw [← same]
      exact List.rdropWhile_append_rtakeWhile.symm
    · exact List.all_eq_true.2 fun c mem => List.mem_rtakeWhile_imp mem
  · rintro ⟨n, blanks, rfl, blank⟩
    rw [dropEnd_append, if_pos (dropEnd_eq_nil_iff.2 blank)]
    refine List.all_eq_true.2 fun c mem => ?_
    simpa using List.eq_of_mem_replicate ((dropEnd_isPrefix ..).subset mem)

theorem not_semicolon {c : Char} (space : isSpace c) : (c == ';') = false := by
  rw [beq_eq_false_iff_ne]
  rintro rfl
  exact absurd space (by decide)

/-- What is added at the end goes away without a trace if it is white space, or if it is a
plain end and stands right behind the text. -/
theorem strip_append_eq_iff {s t : List Char} :
    strip (s ++ t) = strip s ↔ t.all isSpace ∨ PlainEnd t ∧ dropEnd isSpace s = s := by
  by_cases blank : t.all isSpace
  · refine iff_of_true ?_ (.inl blank)
    rw [strip, dropEnd_append, if_pos (dropEnd_eq_nil_iff.2 blank), strip]
  have kept : strip (s ++ t) = if strip t = [] then dropEnd (· == ';') s else s ++ strip t := by
    rw [strip, dropEnd_append, if_neg fun none => blank (dropEnd_eq_nil_iff.1 none),
      dropEnd_append]
    rfl
  rw [or_iff_right blank, kept]
  split
  case isTrue plain =>
    rw [and_iff_right (strip_eq_nil_iff.1 plain)]
    constructor
    · intro same
      by_contra ends
      have stays : dropEnd (· == ';') s = s := dropEnd_eq_self (fun _ => not_semicolon) ends
      have whole : s = strip s := by rw [← same, stays]
      have length : s.length ≤ (dropEnd isSpace s).length := by
        conv_lhs => rw [whole]
        exact length_strip_le s
      exact ends ((dropEnd_isPrefix isSpace s).eq_of_length_le length)
    · intro stays
      rw [strip, stays]
  case isFalse more =>
    refine iff_of_false (fun same => ?_) fun h => more (strip_eq_nil_iff.2 h.1)
    have short : (strip s).length ≤ s.length :=
      (length_strip_le s).trans (dropEnd_isPrefix isSpace s).length_le
    rw [← same, List.length_append] at short
    exact more (List.eq_nil_of_length_eq_zero (by omega))

/-- What may stand behind a query: semicolons and white space. -/
def isTerminator (c : Char) : Bool := c == ';' || isSpace c

theorem dropEnd_eq_self_of_imp {p q : Char → Bool} (stronger : ∀ c, q c → p c) {s : List Char}
    (ends : dropEnd p s = s) : dropEnd q s = s :=
  List.rdropWhile_eq_self_iff.2 fun nonempty last =>
    List.rdropWhile_eq_self_iff.1 ends nonempty (stronger _ last)

/-- A text without terminators at its end loses whatever follows it only if that is a
plain end. -/
theorem strip_append_eq_self_iff {s t : List Char} (bare : dropEnd isTerminator s = s) :
    strip (s ++ t) = s ↔ PlainEnd t := by
  have noSpace : dropEnd isSpace s = s :=
    dropEnd_eq_self_of_imp (fun c space => by simp [isTerminator, space]) bare
  have kept : strip s = s := by
    rw [strip, noSpace]
    exact dropEnd_eq_self_of_imp (fun c semicolon => by simp [isTerminator, semicolon]) bare
  have iff := strip_append_eq_iff (s := s) (t := t)
  rw [kept, and_iff_left noSpace] at iff
  exact iff.trans (or_iff_right_of_imp fun blank => ⟨0, t, rfl, blank⟩)

theorem strip_eq_dropEnd_iff {s : List Char} :
    strip s = dropEnd isTerminator s ↔ PlainEnd (s.rtakeWhile isTerminator) := by
  have whole : dropEnd isTerminator s ++ s.rtakeWhile isTerminator = s :=
    List.rdropWhile_append_rtakeWhile
  have iff := strip_append_eq_self_iff (s := dropEnd isTerminator s)
    (t := s.rtakeWhile isTerminator) (List.rdropWhile_idempotent isTerminator s)
  rwa [whole] at iff

section Start

variable {s : List Char}

theorem all_dropStart (s : List Char) : (dropStart isSpace s).all isSpace = s.all isSpace := by
  have split : s.takeWhile isSpace ++ dropStart isSpace s = s := List.takeWhile_append_dropWhile
  conv_rhs => rw [← split, List.all_append, List.all_takeWhile, Bool.true_and]

theorem dropStart_append (some : s.all isSpace = false) (t : List Char) :
    dropStart isSpace (s ++ t) = dropStart isSpace s ++ t := by
  rw [dropStart, dropStart, List.dropWhile_append, if_neg]
  intro none
  rw [← all_dropStart, dropStart, List.isEmpty_iff.1 none] at some
  cases some

theorem dropEnd_dropStart_eq_self_iff (some : s.all isSpace = false) :
    dropEnd isSpace (dropStart isSpace s) = dropStart isSpace s ↔ dropEnd isSpace s = s := by
  have split : s.takeWhile isSpace ++ dropStart isSpace s = s := List.takeWhile_append_dropWhile
  have shown : dropEnd isSpace (dropStart isSpace s) ≠ [] := by
    rw [Ne, dropEnd_eq_nil_iff, all_dropStart, some]
    exact Bool.false_ne_true
  conv_rhs => rw [← split, dropEnd_append, if_neg shown]
  exact (List.append_right_inj _).symm

end Start

end Text

open Event Program Text

namespace Request

def preQueryBody (query : String) : String := withoutTerminators (trim query)

/-- A pre-query without white space before it, and without what may stand behind it. -/
def bareQuery (query : String) : String :=
  String.ofList (dropEnd isTerminator (dropStart isSpace query.toList))

def ending (query : String) : List Char :=
  (dropStart isSpace query.toList).rtakeWhile isTerminator

theorem toList_preQueryBody (query : String) :
    (preQueryBody query).toList = strip (dropStart isSpace query.toList) := by
  simp [preQueryBody, withoutTerminators, trim, strip]

theorem preQueryBody_eq_bareQuery_iff {query : String} :
    preQueryBody query = bareQuery query ↔ PlainEnd (ending query) := by
  rw [← String.toList_inj, toList_preQueryBody, bareQuery, String.toList_ofList]
  exact strip_eq_dropEnd_iff

theorem preQueryBody_eq_empty_iff {query : String} :
    preQueryBody query = "" ↔ PlainEnd (dropStart isSpace query.toList) := by
  rw [← String.toList_inj, toList_preQueryBody, String.toList_empty, strip_eq_nil_iff]

theorem preQueryBody_append_eq_iff {query : String} (shown : isBlank query = false)
    (tail : String) :
    preQueryBody (query ++ tail) = preQueryBody query ↔
      isBlank tail ∨ PlainEnd tail.toList ∧ dropEnd isSpace query.toList = query.toList := by
  rw [← String.toList_inj, toList_preQueryBody, toList_preQueryBody, String.toList_append,
    dropStart_append shown, strip_append_eq_iff, dropEnd_dropStart_eq_self_iff shown, isBlank]

section First

variable {names : TypeNames} {request : Request} {mark : Mark} {query : String}

theorem Fails.ne_nil {log : List Exchange} {e : Error} (fails : request.Fails mark names log e) :
    log ≠ [] := by
  cases fails <;> simp

theorem Returns.ne_nil {log : List Exchange} {prepared : Prepared}
    (returns : request.Returns mark names log prepared) : log ≠ [] := by
  obtain ⟨front, table, schema, distinct, frame, -, -, rfl, -⟩ := returns
  simp

theorem MaySend.of_nil {statement : Statement} (given : request.effectivePreQuery = some query)
    (may : request.MaySend mark [] statement) :
    ∃ table : TempTable, table.purpose = .preQuery ∧ statement = preQueryStatement query table := by
  have opening : request.opening = 1 := by simp [Request.opening, given]
  generalize empty : ([] : List Exchange) = log at may
  cases may with
  | preQuery same purpose =>
    cases given.symm.trans same
    exact ⟨_, purpose, rfl⟩
  | source length =>
    rw [← empty, opening] at length
    cases length
  | reshape known purpose =>
    obtain ⟨front, frame, schema, same, -⟩ := known
    simp [same] at empty
  | reshaped known => simp at empty
  | probe known asked =>
    have length := known.length
    rw [← empty] at length
    cases length
  | final known =>
    obtain ⟨front, verdict, same, known, -⟩ := known.split
    have length := known.length
    rw [(List.append_eq_nil_iff.1 (empty.trans same).symm).1] at length
    cases length

/-- A run makes the table for its pre-query first, unless it is cancelled before. -/
theorem first_exchange {session : String} {events : List Event} {result : Except Error Prepared}
    (valid : request.validate = .ok mark) (given : request.effectivePreQuery = some query)
    (run : Steps session (request.prepare names) events (done result)) :
    .look true ∈ events ∧ exchanges (withoutDrops events) = [] ∨
      ∃ (table : TempTable) (reply : Reply) (rest : List Exchange), table.purpose = .preQuery ∧
        exchanges (withoutDrops events) = ⟨preQueryStatement query table, reply⟩ :: rest := by
  cases log : exchanges (withoutDrops events) with
  | nil =>
    refine .inl ⟨?_, rfl⟩
    have ends := ends_of_log valid run
    cases result with
    | ok prepared => exact absurd log (Returns.ne_nil ends)
    | error e =>
      rcases ends with cancelled | fails
      · exact List.mem_of_mem_filter cancelled
      · exact absurd log fails.ne_nil
  | cons first rest =>
    have may : request.MaySend mark [] first.statement := maySend_of_log valid run log
    obtain ⟨table, purpose, same⟩ := may.of_nil given
    exact .inr ⟨table, first.reply, rest, purpose, by rw [← same]⟩

end First

end Request

/-- A pre-query that is not blank is cut at its end, and the first statement of a run makes a
table of what is left, unless the run is cancelled before. White space goes first and then the
semicolons, and nothing more. So the whole run of semicolons and white space at the end goes
away exactly if it is a plain end. Nothing is left of a query that consists of a plain end. What
is added behind a query does not matter exactly if it is white space, or if it is a plain end and
there is no white space before it. -/
theorem pre_query_loses_plain_end {names : TypeNames} {request : Request} {mark : Mark}
    {query : String} (valid : request.validate = .ok mark)
    (given : request.preQuery = some query) (shown : isBlank query = false) :
    (∀ session events result, Steps session (request.prepare names) events (done result) →
      .look true ∈ events ∧ exchanges (withoutDrops events) = [] ∨
        ∃ (table : TempTable) (reply : Reply) (rest : List Exchange), table.purpose = .preQuery ∧
          exchanges (withoutDrops events) =
            ⟨.create table.name (Request.preQueryBody query), reply⟩ :: rest) ∧
    (Request.preQueryBody query = Request.bareQuery query ↔
      PlainEnd (Request.ending query)) ∧
    (Request.preQueryBody query = "" ↔ PlainEnd (dropStart isSpace query.toList)) ∧
    ∀ tail, Request.preQueryBody (query ++ tail) = Request.preQueryBody query ↔
      isBlank tail ∨ PlainEnd tail.toList ∧ dropEnd isSpace query.toList = query.toList := by
  have effective : request.effectivePreQuery = some (trim query) := by
    simp [Request.effectivePreQuery, given, shown]
  exact ⟨fun session events result run => Request.first_exchange valid effective run,
    Request.preQueryBody_eq_bareQuery_iff, Request.preQueryBody_eq_empty_iff,
    Request.preQueryBody_append_eq_iff shown⟩

def stoppedRun (body : String) : List Event :=
  let table : TempTable := ⟨.preQuery, "s", 7⟩
  [.take table, .look false, .send (.create table.name body) (.ok .empty), .look true,
    .send (.drop table.name) (.ok .empty)]

theorem steps_stoppedRun {names : TypeNames} {request : Request} {mark : Mark} {query : String}
    (valid : request.validate = .ok mark) (given : request.preQuery = some query)
    (shown : isBlank query = false) :
    Steps "s" (request.prepare names) (stoppedRun (Request.preQueryBody query))
      (done (.error .cancelled)) := by
  have effective : request.effectivePreQuery = some (trim query) := by
    simp [Request.effectivePreQuery, given, shown]
  rw [Request.prepare, valid]
  simp only
  rw [Request.steps_eq, Request.openSource_eq, effective]
  exact .step (.take ..) <| .step (.look ..) <| .step (.send ..) <| .step (.look ..) <|
    .step (.send ..) <| .none _

theorem sales_lose_plain_end :
    sales.validate = .ok .barY ∧ sales.preQuery = some "SELECT * FROM raw;" ∧
      isBlank "SELECT * FROM raw;" = false ∧
      Steps "s" (sales.prepare .duckdb) (stoppedRun "SELECT * FROM raw")
        (done (.error .cancelled)) ∧
      Request.preQueryBody "SELECT * FROM raw;" = "SELECT * FROM raw" ∧
      Request.preQueryBody "SELECT * FROM raw;" = Request.bareQuery "SELECT * FROM raw;" := by
  have valid : sales.validate = .ok .barY := rfl
  have shown : isBlank "SELECT * FROM raw;" = false := by decide
  have run : Steps "s" (sales.prepare .duckdb)
      (stoppedRun (Request.preQueryBody "SELECT * FROM raw;")) (done (.error .cancelled)) :=
    steps_stoppedRun valid rfl shown
  obtain ⟨first, whole, -, -⟩ := @pre_query_loses_plain_end .duckdb _ _ _ valid rfl shown
  refine ⟨valid, rfl, shown, run, ?_, whole.2 ⟨1, [], by decide +kernel, rfl⟩⟩
  obtain ⟨-, none⟩ | ⟨table, reply, rest, -, log⟩ := first _ _ _ run
  · cases none
  · obtain ⟨same, -⟩ := List.cons.inj log
    exact (Statement.create.inj (Exchange.mk.inj same).1).2.symm

def salesFrom (query : String) : Request := { sales with preQuery := some query }

/-- Where semicolons and white space alternate at the end, some of them are sent. A query of a
semicolon alone is accepted, and nothing is left of it. -/
theorem alternating_end_stays :
    (salesFrom "SELECT * FROM raw; ;").validate = .ok .barY ∧
      Steps "s" ((salesFrom "SELECT * FROM raw; ;").prepare .duckdb)
        (stoppedRun "SELECT * FROM raw; ") (done (.error .cancelled)) ∧
      Request.bareQuery "SELECT * FROM raw; ;" = "SELECT * FROM raw" ∧
      (salesFrom ";").validate = .ok .barY ∧
      Steps "s" ((salesFrom ";").prepare .duckdb) (stoppedRun "") (done (.error .cancelled)) := by
  have valid : (salesFrom "SELECT * FROM raw; ;").validate = .ok .barY := rfl
  have empty : (salesFrom ";").validate = .ok .barY := rfl
  have left : Request.preQueryBody "SELECT * FROM raw; ;" = "SELECT * FROM raw; " := by
    decide +kernel
  have nothing : Request.preQueryBody ";" = "" := by decide +kernel
  rw [← left, ← nothing]
  exact ⟨valid, steps_stoppedRun valid rfl (by decide), by decide +kernel, empty,
    steps_stoppedRun empty rfl (by decide)⟩

end ChartQuery
