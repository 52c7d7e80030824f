import Mathlib.Data.List.Induction
import FormulaCompiler.Proofs.Session.Runs

/-! The moments of a run. Whatever a session holds was made at one moment, by the job of the command
at that moment, and the numbers of the units say which moment came first.
-/

namespace FormulaCompiler.Session

-----------------------------------------------------------------------------------------
-- Moments of a run
-----------------------------------------------------------------------------------------

variable {start : Session} {commands : List Command} {moment later : Nat}

/-- Whether the command at this moment of a run sets a job. -/
def Sets (start : Session) (commands : List Command) (moment : Nat) (job : Job) : Prop :=
  ∃ command, commands[moment]? = some command
    ∧ (start.after (commands.take moment)).job? command = some job

namespace Sets

variable {job second : Job}

theorem unique (sets : start.Sets commands moment job) (again : start.Sets commands moment second)
    : job = second := by
  obtain ⟨command, carried, asked⟩ := sets
  obtain ⟨other, same, askedAgain⟩ := again
  obtain rfl := Option.some.inj (carried.symm.trans same)
  exact Option.some.inj (asked.symm.trans askedAgain)

theorem lt_length (sets : start.Sets commands moment job) : moment < commands.length := by
  obtain ⟨command, carried, -⟩ := sets
  exact (List.getElem?_eq_some_iff.mp carried).1

/-- The number of a unit counts the units that were built before it. -/
theorem number_eq (sets : start.Sets commands moment job)
    : job.number = start.process.units + (commands.take moment).countP Command.buildsUnit := by
  obtain ⟨command, -, asked⟩ := sets
  rw [← units_after]
  cases command <;> cases asked <;> rfl

theorem number_lt (sets : start.Sets commands moment job)
    (setsLater : start.Sets commands later second) (before : moment < later)
    : job.number < second.number := by
  -- The command that sets the first job counts itself among the units before the second.
  have builds : (commands.take (moment + 1)).countP Command.buildsUnit
      = (commands.take moment).countP Command.buildsUnit + 1 := by
    obtain ⟨command, carried, asked⟩ := sets
    have counted := isSome_job? (start.after (commands.take moment)) command
    rw [asked] at counted
    rw [List.take_add_one, carried, List.countP_append]
    simp [← counted]
  have upTo : (commands.take (moment + 1)).countP Command.buildsUnit
      ≤ (commands.take later).countP Command.buildsUnit :=
    (List.take_sublist_take_left before).countP_le
  rw [sets.number_eq, setsLater.number_eq]
  omega

/-- Units that are built at different moments have different numbers. -/
theorem number_ne (sets : start.Sets commands moment job)
    (setsOther : start.Sets commands later second) (other : moment ≠ later)
    : job.number ≠ second.number := by
  rcases Nat.lt_or_gt_of_ne other with before | behind
  · exact Nat.ne_of_lt (sets.number_lt setsOther before)
  · exact Nat.ne_of_gt (setsOther.number_lt sets behind)

end Sets

/-- Whether an artifact was made at this moment of a run, by the job that is set there. -/
structure Birth (start : Session) (commands : List Command) (moment : Nat) (job : Job)
    (analysis : Analysis) (made : BuiltArtifact)
    : Prop where
  sets : start.Sets commands moment job
  makes : job.Makes (start.after (commands.take moment)).process analysis made

/-- What was made is not made anew by further commands. -/
theorem Birth.append {job : Job} {analysis : Analysis} {made : BuiltArtifact}
    (birth : start.Birth commands moment job analysis made) (more : List Command)
    : start.Birth (commands ++ more) moment job analysis made := by
  have inside := birth.sets.lt_length
  obtain ⟨⟨command, carried, asked⟩, makes⟩ := birth
  have before : (commands ++ more).take moment = commands.take moment :=
    List.take_append_of_le_length (Nat.le_of_lt inside)
  refine ⟨⟨command, ?_, ?_⟩, ?_⟩
  · rw [List.getElem?_append_left inside, carried]
  · rw [before, asked]
  · rw [before]
    exact makes

theorem Birth.of_take {cut : Nat} {job : Job} {analysis : Analysis} {made : BuiltArtifact}
    (birth : start.Birth (commands.take cut) moment job analysis made)
    : start.Birth commands moment job analysis made := by
  have whole := birth.append (commands.drop cut)
  rw [List.take_append_drop] at whole
  exact whole

/-- What is made for different places is made at different moments. -/
theorem Birth.moment_ne {job second : Job} {analysis reanalysis : Analysis}
    {made other : BuiltArtifact} (birth : start.Birth commands moment job analysis made)
    (rebirth : start.Birth commands later second reanalysis other)
    (apart : second.place ≠ job.place)
    : moment ≠ later := by
  rintro rfl
  rw [birth.sets.unique rebirth.sets] at apart
  exact apart rfl

theorem held?_fresh (compiler : Compiler) (process : Process) (place : Place)
    : held? { compiler, process } place = none := by
  cases place <;> rfl

/-- Whether a place has held an artifact at all times behind a moment. -/
def HeldSince (start : Session) (commands : List Command) (moment : Nat) (place : Place)
    (made : BuiltArtifact)
    : Prop :=
  ∀ later, moment < later → later ≤ commands.length
    → (start.after (commands.take later)).held? place = some made

variable {passed : List Command} {command : Command} {place : Place} {made : BuiltArtifact}

/-- One more command adds one more time, the end. -/
theorem HeldSince.concat (since : start.HeldSince passed moment place made)
    (held : (start.after (passed ++ [command])).held? place = some made)
    : start.HeldSince (passed ++ [command]) moment place made := by
  intro later behind inside
  -- A moment within the commands before is one of theirs, and the only other one is the end.
  rcases Nat.lt_or_ge passed.length later with last | inner
  · have all : (passed ++ [command]).length ≤ later := by
      rw [List.length_append]
      exact last
    rw [List.take_of_length_le all]
    exact held
  · rw [List.take_append_of_le_length inner]
    exact since later behind inner

theorem birth_concat {job : Job} {analysis : Analysis}
    (asked : (start.after passed).job? command = some job)
    (makes : job.Makes (start.after passed).process analysis made)
    : start.Birth (passed ++ [command]) passed.length job analysis made := by
  have before : (passed ++ [command]).take passed.length = passed := List.take_left
  refine ⟨⟨command, ?_, ?_⟩, ?_⟩
  · simp
  · rw [before, asked]
  · rw [before]
    exact makes

/-- Whatever a place holds was made at some moment for this place, and was held ever since. Witness:
by induction over the commands, of which the last keeps what the place held before or fills it.
-/
theorem exists_birth (empty : ∀ place, start.held? place = none) (commands : List Command)
    (held : (start.after commands).held? place = some made)
    : ∃ moment job analysis,
        job.place = place
        ∧ start.Birth commands moment job analysis made
        ∧ start.HeldSince commands moment place made := by
  induction commands using List.reverseRecOn with
  | nil => exact absurd ((empty place).symm.trans held) nofun
  | append_singleton passed command ih =>
      have whole : start.after (passed ++ [command])
          = ((start.after passed).step command).1 := by
        rw [after_append]
        rfl
      rcases ((start.after passed).isStep command).change.held?_cases place with
        same | none | ⟨job, analysis, other, asked, rfl, makes, filled⟩
      · obtain ⟨moment, job, analysis, own, birth, since⟩ := ih (by rwa [whole, same] at held)
        exact ⟨moment, job, analysis, own, birth.append _, since.concat held⟩
      · rw [whole, none] at held
        cases held
      · rw [← whole] at filled
        -- The place was filled by the last command, so the only time to come is the end.
        obtain rfl := Option.some.inj (filled.symm.trans held)
        have since : start.HeldSince passed passed.length job.place other :=
          fun later behind inner => absurd inner (Nat.not_le_of_lt behind)
        exact ⟨passed.length, job, analysis, rfl, birth_concat asked makes, since.concat held⟩

end FormulaCompiler.Session
