import Mathlib.Data.List.Forall2
import FormulaCompiler.CommandLine
import FormulaCompiler.Proofs.OneLine

/-! What the prompt writes for an input. Each line is answered by itself, so an input that is cut
behind a line feed is answered as its two parts are, one after the other.
-/

namespace FormulaCompiler

-----------------------------------------------------------------------------------------
-- Lines of two inputs
-----------------------------------------------------------------------------------------

/-- Bytes that end with a line feed are cut into lines apart from what stands behind them. -/
theorem splitLinesAfter_append {current bytes : List UInt8} (ended : bytes.getLast? = some 0x0A)
    (later : List UInt8)
    : splitLinesAfter current (bytes ++ later)
      = splitLinesAfter current bytes ++ splitLines later := by
  induction bytes generalizing current with
  | nil => cases ended
  | cons byte rest ih =>
      rw [List.cons_append, splitLinesAfter, splitLinesAfter]
      cases rest with
      | nil =>
          cases ended
          rfl
      | cons second more =>
          rw [List.getLast?_cons_cons] at ended
          split
          · rw [ih ended, List.cons_append]
          · exact ih ended

/-- Whether the next line begins behind these bytes. -/
def EndsLine (bytes : List UInt8) : Prop :=
  bytes = [] ∨ bytes.getLast? = some 0x0A

theorem EndsLine.splitLines_append {bytes : List UInt8} (ended : EndsLine bytes)
    (later : List UInt8)
    : splitLines (bytes ++ later) = splitLines bytes ++ splitLines later := by
  rcases ended with rfl | feed
  · rfl
  · exact splitLinesAfter_append feed later

/-- The texts of lines, up to the first line that is no text. -/
def readableLines : List (List UInt8) → List String
  | [] => []
  | line :: rest =>
    match decodeUtf8? line with
    | some text => text :: readableLines rest
    | none => []

theorem readableLines_append_of_isSome {lines : List (List UInt8)}
    (readable : ∀ line ∈ lines, (decodeUtf8? line).isSome) (later : List (List UInt8))
    : readableLines (lines ++ later) = readableLines lines ++ readableLines later := by
  induction lines with
  | nil => rfl
  | cons line rest ih =>
      obtain ⟨first, others⟩ := List.forall_mem_cons.mp readable
      obtain ⟨text, decoded⟩ := Option.isSome_iff_exists.mp first
      rw [List.cons_append, readableLines, readableLines, decoded, ih others]
      rfl

/-- A line that is no text hides all lines behind it. -/
theorem readableLines_append_of_eq_none {lines : List (List UInt8)}
    (unreadable : ∃ line ∈ lines, decodeUtf8? line = none) (later : List (List UInt8))
    : readableLines (lines ++ later) = readableLines lines := by
  induction lines with
  | nil =>
      obtain ⟨line, listed, -⟩ := unreadable
      cases listed
  | cons line rest ih =>
      rw [List.cons_append, readableLines, readableLines]
      cases decoded : decodeUtf8? line with
      | none => rfl
      | some text =>
          have others : ∃ line ∈ rest, decodeUtf8? line = none := by
            obtain ⟨other, listed, failed⟩ := unreadable
            rcases List.mem_cons.mp listed with rfl | member
            · cases decoded.symm.trans failed
            · exact ⟨other, member, failed⟩
          exact congrArg (text :: ·) (ih others)

-----------------------------------------------------------------------------------------
-- The answer to one line
-----------------------------------------------------------------------------------------

namespace CodeUnit

variable {unit : CodeUnit} {options : CompileOptions} {reports : List Diagnostic}

theorem ne_nil_of_refused (refused : unit.analyze options = .error reports) : reports ≠ [] := by
  rintro rfl
  have none := unit.analyze_reports options
  rw [refused] at none
  have clean : ¬Diagnostic.hasErrors (unit.reports options) := by
    rw [← none]
    exact Bool.false_ne_true
  obtain ⟨expr, -, accepted⟩ := analyze_of_noErrors clean
  cases refused.symm.trans accepted

theorem oneLine_of_refused (refused : unit.analyze options = .error reports)
    : ∀ report ∈ reports, OneLine report.display := by
  intro report listed
  have found : report ∈ Analysis.reportsOf (unit.analyze options) := by
    rw [refused]
    exact listed
  exact oneLine_of_mem_reportsOf found

end CodeUnit

namespace Repl

/-- What is written for one line, as if it were the first one. -/
def reply (repl : Repl) (text : String) : String :=
  let formula := trimBlanks text
  if formula.isEmpty then "" else (repl.answer formula {}).1

/-- (repl.Replies text written) says what is written for a line: nothing for a blank one, and for
any other one the value of its formula or a line for each report about it.
-/
inductive Replies (repl : Repl) (text : String) : String → Prop
  | blank (empty : trimBlanks text = "") : Replies repl text ""
  | value {function} (some : trimBlanks text ≠ "")
    (compiled : (repl.compiler.compile (trimBlanks text) {}).1 = .ok function)
    (single : OneLine (floatText (function.invoke repl.x).toFloat))
    : Replies repl text (floatText (function.invoke repl.x).toFloat ++ "\n")
  | errors {reports} (some : trimBlanks text ≠ "")
    (refused : (repl.compiler.compile (trimBlanks text) {}).1 = .error reports)
    (found : reports ≠ [])
    (single : ∀ report ∈ reports, OneLine report.display)
    : Replies repl text
        ("Errors:\n" ++ String.join (reports.map fun report => "  " ++ report.display ++ "\n"))

variable (repl : Repl)

theorem backend_ne_missing : repl.compiler.backend ≠ .missing := by
  unfold compiler
  split <;> exact nofun

/-- What is answered does not depend on the process: the checks of a formula do not, and they
decide the answer.
-/
theorem answer_eq (formula : String) (first second : Process)
    : (repl.answer formula first).1 = (repl.answer formula second).1 := by
  have delivers := repl.compiler.compile_delivers repl.backend_ne_missing formula first
  have again := repl.compiler.compile_delivers repl.backend_ne_missing formula second
  have same : (repl.compiler.unitOf formula first).analyze repl.compiler.options
      = (repl.compiler.unitOf formula second).analyze repl.compiler.options :=
    rfl
  rw [same] at delivers
  unfold answer
  generalize repl.compiler.compile formula first = result at delivers ⊢
  generalize repl.compiler.compile formula second = repeated at again ⊢
  obtain ⟨outcome, process⟩ := result
  obtain ⟨outcome', process'⟩ := repeated
  generalize (repl.compiler.unitOf formula second).analyze repl.compiler.options = analyzed
    at delivers again
  cases delivers with
  | refused reports =>
      cases again
      rfl
  | compiled _ invoked =>
      cases again with
      | compiled _ invoked' =>
          dsimp only
          rw [invoked, invoked']

/-- A line that is a text is answered as if it were the first one. -/
theorem respond?_of_decode {line : List UInt8} {text : String}
    (decoded : decodeUtf8? line = some text) (process : Process)
    : ∃ after, repl.respond? line process = some (repl.reply text, after) := by
  rw [respond?, decoded, Option.map_some]
  unfold reply
  dsimp only
  split
  · exact ⟨process, rfl⟩
  · rw [repl.answer_eq (trimBlanks text) {} process]
    exact ⟨_, rfl⟩

/-- What is refused is refused with reports, and each of them takes one line. -/
theorem refused_with_lines {formula : String} {process : Process} {reports : List Diagnostic}
    (refused : (repl.compiler.compile formula process).1 = .error reports)
    : reports ≠ [] ∧ ∀ report ∈ reports, OneLine report.display := by
  have delivers := repl.compiler.compile_delivers repl.backend_ne_missing formula process
  rw [refused] at delivers
  generalize analyzed : (repl.compiler.unitOf formula process).analyze repl.compiler.options
    = result at delivers
  cases delivers with
  | refused _ => exact ⟨CodeUnit.ne_nil_of_refused analyzed, CodeUnit.oneLine_of_refused analyzed⟩

theorem replies_reply (text : String) : repl.Replies text (repl.reply text) := by
  unfold reply
  dsimp only
  split
  · rename_i empty
    exact .blank (String.isEmpty_iff.mp empty)
  · rename_i some
    have some := mt String.isEmpty_iff.mpr some
    cases compiled : repl.compiler.compile (trimBlanks text) {} with
    | mk outcome process =>
        have first : (repl.compiler.compile (trimBlanks text) {}).1 = outcome := by rw [compiled]
        rw [answer, compiled]
        cases outcome with
        | ok function => exact .value some first (oneLine_floatText _)
        | error reports =>
            obtain ⟨found, single⟩ := repl.refused_with_lines first
            exact .errors some first found single

-----------------------------------------------------------------------------------------
-- The answers to all lines
-----------------------------------------------------------------------------------------

/-- What is written for texts, with a prompt before each of them and one behind the last. -/
def written (texts : List String) : String :=
  String.join (texts.map fun text => prompt ++ repl.reply text) ++ prompt

/-- Lines are answered one by one, by induction over them. -/
theorem join_exchange (process : Process) (lines : List (List UInt8))
    : String.join (repl.exchange process lines) = repl.written (readableLines lines) := by
  induction lines generalizing process with
  | nil => rfl
  | cons line rest ih =>
      rw [exchange, readableLines]
      cases decoded : decodeUtf8? line with
      | none =>
          rw [respond?, decoded]
          rfl
      | some text =>
          obtain ⟨after, answered⟩ := repl.respond?_of_decode decoded process
          rw [answered]
          dsimp only
          rw [String.join_cons, String.join_cons, ih, written, written, List.map_cons,
            String.join_cons, String.append_assoc, String.append_assoc]

theorem transcript_eq (input : List UInt8)
    : repl.transcript input = repl.written (readableLines (splitLines input)) :=
  repl.join_exchange {} (splitLines input)

theorem written_append (texts more : List String)
    : ∃ front, repl.written texts = front ++ prompt
        ∧ repl.written (texts ++ more) = front ++ repl.written more := by
  refine ⟨String.join (texts.map fun text => prompt ++ repl.reply text), rfl, ?_⟩
  rw [written, written, List.map_append, String.join_append, String.append_assoc]

theorem forall₂_replies (texts : List String)
    : List.Forall₂ repl.Replies texts (texts.map repl.reply) := by
  rw [List.forall₂_map_right_iff, List.forall₂_same]
  exact fun text _ => repl.replies_reply text

/-- The prompt has no memory. An input that is cut behind a line feed is answered as its first part,
whose last prompt is given up, and then as its second part; but what stands behind a line that is no
text is not answered at all. Each line gets a prompt and then what is written for it, and another
prompt stands at the end. A prompt never fails. Witness: what is written for a line is what would be
written for it alone, since a compilation does not depend on the process.
-/
theorem transcript_by_lines (repl : Repl)
    : (∀ earlier later : List UInt8,
        EndsLine earlier
        → if ∀ line ∈ splitLines earlier, (decodeUtf8? line).isSome then
            ∃ front,
              repl.transcript earlier = front ++ prompt
              ∧ repl.transcript (earlier ++ later) = front ++ repl.transcript later
          else repl.transcript (earlier ++ later) = repl.transcript earlier)
      ∧ (∀ input : List UInt8,
          ∃ replies,
            List.Forall₂ repl.Replies (readableLines (splitLines input)) replies
            ∧ repl.transcript input = String.join (replies.map (prompt ++ ·)) ++ prompt)
      ∧ ∀ (arguments : List String) (input : List UInt8),
          CommandLine.read arguments = .prompt repl
          → CommandLine.run arguments input = (0, repl.transcript input) := by
  refine ⟨?_, ?_, ?_⟩
  · intro earlier later ended
    simp only [transcript_eq, ended.splitLines_append]
    split
    · rename_i readable
      rw [readableLines_append_of_isSome readable]
      exact repl.written_append _ _
    · rename_i unreadable
      have failed : ∃ line ∈ splitLines earlier, decodeUtf8? line = none := by
        simpa using unreadable
      rw [readableLines_append_of_eq_none failed]
  · intro input
    refine ⟨(readableLines (splitLines input)).map repl.reply, repl.forall₂_replies _, ?_⟩
    rw [transcript_eq, written, List.map_map]
    rfl
  · intro arguments input asked
    rw [CommandLine.run, asked]

/-- A formula and a blank line are answered as they are without the unknown name behind them, and
the byte that is no text hides the formula behind it.
-/
theorem transcript_of_two_parts
    : let repl : Repl := {}
      let earlier : List UInt8 := [0x78, 0x0D, 0x0A, 0x20, 0x0A]
      let later : List UInt8 := [0x79, 0x0A, 0xFF, 0x0A, 0x78]
      EndsLine earlier
      ∧ repl.transcript earlier = "> 42\n> > "
      ∧ repl.transcript (earlier ++ later)
        = "> 42\n> "
          ++ "> Errors:\n  error CF0101: the name 'y' does not exist in the current context "
          ++ "(at 0..1)\n> "
      ∧ CommandLine.run [] later = (0, repl.transcript later) := by
  intro repl earlier later
  obtain ⟨laws, -, runs⟩ := transcript_by_lines repl
  have ended : EndsLine earlier := .inr rfl
  have readable : ∀ line ∈ splitLines earlier, (decodeUtf8? line).isSome := by decide +kernel
  have alone : repl.transcript earlier = "> 42\n> " ++ prompt := by decide +kernel
  have law := laws earlier later ended
  rw [if_pos readable] at law
  obtain ⟨front, first, joined⟩ := law
  have same : front = "> 42\n> " := (String.append_left_inj prompt).mp (first.symm.trans alone)
  refine ⟨ended, alone, ?_, runs [] later rfl⟩
  rw [joined, same, String.append_assoc]
  exact congrArg ("> 42\n> " ++ ·) (by decide +kernel)

end Repl

end FormulaCompiler
