import SmartTraffic.Control.DecisionLog
import SmartTraffic.Proof.Phases

/-!
# The audit trail

Three things are kept of the commands that go to the controller: a CSV file, a JSON-Lines
file and a bounded history. The files see any number of starts of the program, and any of
the writes may fail.

Read back, the CSV file is one header at most and then one row for every entry that could be
written; a line of the JSON file gives the entry and, inside it, the very command that was
sent. The history holds the newest entries of the running program, whose numbers grow.
-/

namespace SmartTraffic.Proof

open SmartTraffic Lib PipelineWorld

/-- The operation writes its CSV row, if it logs anything. -/
def AuditOp.csvWrites : AuditOp → Bool
  | .step _ _ a => a.csvWrites
  | _ => false

def AuditOp.jsonWrites : AuditOp → Bool
  | .step _ _ a => a.jsonWrites
  | _ => false

def AuditOp.isStart : AuditOp → Bool
  | .start _ _ _ => true
  | _ => false

theorem filterMap_singleton {A B : Type} (f : A → Option B) (a : A) :
    [a].filterMap f = (f a).toList := by
  cases h : f a with
  | none => rw [List.filterMap_cons_none h]; rfl
  | some b => rw [List.filterMap_cons_some h]; rfl

section

variable (str : Json → Text)

/-- A run from nothing: no files, and an empty history. -/
def trail (run : List AuditOp) : List (Event AuditedPipeline AuditOp AuditOutput) :=
  events (AuditedPipeline.step str) {} run

def audited (run : List AuditOp) : AuditedPipeline := final (AuditedPipeline.step str) {} run

/-- The last event of a run. -/
def lastEvent (run : List AuditOp) (op : AuditOp) : Event AuditedPipeline AuditOp AuditOutput :=
  eventOf (AuditedPipeline.step str) (audited str run) op

theorem trail_concat (run : List AuditOp) (op : AuditOp) :
    trail str (run ++ [op]) = trail str run ++ [lastEvent str run op] :=
  events_append _ _ run [op]

theorem audited_concat (run : List AuditOp) (op : AuditOp) :
    audited str (run ++ [op]) = (AuditedPipeline.step str (audited str run) op).1 :=
  final_append _ _ run [op]

/-- The entry, if it is written. -/
def kept (writes : Bool) (logged : Option DecisionLog) : Option DecisionLog :=
  if writes then logged else none

/-- The entries of the run whose operation wrote them, in order. -/
def written (writes : AuditOp → Bool) (run : List AuditOp) : List DecisionLog :=
  (trail str run).filterMap fun e => kept (writes e.input) e.out.logged

theorem written_concat (writes : AuditOp → Bool) (run : List AuditOp) (op : AuditOp) :
    written str writes (run ++ [op]) = written str writes run
      ++ (kept (writes op) (lastEvent str run op).out.logged).toList := by
  unfold written
  rw [trail_concat, List.filterMap_append, filterMap_singleton]
  rfl

/-- What an operation other than a start appends to the CSV file. -/
theorem csvFile_step (s : AuditedPipeline) {op : AuditOp} (h : AuditOp.isStart op = false) :
    (s.step str op).1.logger.csvFile.getD [] = s.logger.csvFile.getD []
      ++ (kept (AuditOp.csvWrites op) (s.step str op).2.logged).toList.flatMap fun l =>
        Csv.writeRow (CSVLogger.row str l.toDict) := by
  cases op with
  | start running esp32 writes => cases h
  | step i reply a =>
      dsimp only [AuditedPipeline.step]
      generalize (s.control.world.processStep i).2.logEntry a
        (s.control.world.health i a.detections) = logged
      show (logged.elim s.logger (s.logger.record str a)).csvFile.getD []
        = _ ++ (kept a.csvWrites logged).toList.flatMap _
      cases logged with
      | none => simp [kept]
      | some l =>
          show (CSVLogger.log str s.logger.csvFile l.toDict a.csvWrites).getD [] = _
          cases a.csvWrites <;> simp [kept, CSVLogger.log]
  | command c => exact (List.append_nil _).symm
  | configure minimum maximum => exact (List.append_nil _).symm

/-- What an operation appends to the JSON file. -/
theorem jsonFile_step (s : AuditedPipeline) (op : AuditOp) :
    (s.step str op).1.logger.jsonFile.getD [] = s.logger.jsonFile.getD []
      ++ (kept (AuditOp.jsonWrites op) (s.step str op).2.logged).toList.flatMap fun l =>
        JsonText.dumps none (.obj l.toDict.items) ++ ['\n'] := by
  cases op with
  | start running esp32 writes => exact (List.append_nil _).symm
  | step i reply a =>
      dsimp only [AuditedPipeline.step]
      generalize (s.control.world.processStep i).2.logEntry a
        (s.control.world.health i a.detections) = logged
      show (logged.elim s.logger (s.logger.record str a)).jsonFile.getD []
        = _ ++ (kept a.jsonWrites logged).toList.flatMap _
      cases logged with
      | none => simp [kept]
      | some l =>
          show (JSONLogger.log s.logger.jsonFile l.toDict a.jsonWrites).getD [] = _
          cases a.jsonWrites <;> simp [kept, JSONLogger.log]
  | command c => exact (List.append_nil _).symm
  | configure minimum maximum => exact (List.append_nil _).symm

/-! ## The CSV file -/

/-- A start wrote the header before any row was written. -/
def HeaderFirst (run : List AuditOp) : Prop :=
  ∃ before running esp32 rest, run = before ++ .start running esp32 true :: rest
    ∧ written str AuditOp.csvWrites before = []

theorem headerFirst_concat (run : List AuditOp) (op : AuditOp) :
    HeaderFirst str (run ++ [op]) ↔ HeaderFirst str run
      ∨ ((∃ running esp32, op = .start running esp32 true)
        ∧ written str AuditOp.csvWrites run = []) := by
  constructor
  · rintro ⟨before, running, esp32, rest, hrun, hnone⟩
    rcases List.eq_nil_or_concat rest with rfl | ⟨rest, last, rfl⟩
    · obtain ⟨rfl, hop⟩ := List.append_inj' hrun rfl
      exact Or.inr ⟨⟨running, esp32, (List.cons.inj hop).1⟩, hnone⟩
    · rw [List.concat_eq_append, ← List.cons_append, ← List.append_assoc] at hrun
      obtain ⟨rfl, -⟩ := List.append_inj' hrun rfl
      exact Or.inl ⟨before, running, esp32, rest, rfl, hnone⟩
  · rintro (⟨before, running, esp32, rest, rfl, hnone⟩ | ⟨⟨running, esp32, rfl⟩, hnone⟩)
    · exact ⟨before, running, esp32, rest ++ [op], by simp, hnone⟩
    · exact ⟨run, running, esp32, [], rfl, hnone⟩

/-- What the CSV file reads as. -/
def csvRows (header : List (List Text)) (entries : List DecisionLog) : List (List Text) :=
  header ++ entries.map fun l => CSVLogger.row str l.toDict

/-- The file is the table. -/
structure CsvHolds (run : List AuditOp) (header : List (List Text)) : Prop where
  content : (audited str run).logger.csvFile.getD []
    = (csvRows str header (written str AuditOp.csvWrites run)).flatMap Csv.writeRow
  header : HeaderFirst str run ∧ header = [CSVLogger.headerRow]
    ∨ ¬HeaderFirst str run ∧ header = []

theorem writeRow_ne_nil (row : List Text) : Csv.writeRow row ≠ [] := by
  unfold Csv.writeRow
  simp

/-- An empty file has neither a header nor a row. -/
theorem csvRows_eq_nil {header : List (List Text)} {entries : List DecisionLog}
    (h : (csvRows str header entries).flatMap Csv.writeRow = []) : header = [] ∧ entries = [] := by
  have hrows : csvRows str header entries = [] := by
    cases hc : csvRows str header entries with
    | nil => rfl
    | cons row rows =>
        rw [hc, List.flatMap_cons, List.append_eq_nil_iff] at h
        exact absurd h.1 (writeRow_ne_nil row)
  unfold csvRows at hrows
  rw [List.append_eq_nil_iff, List.map_eq_nil_iff] at hrows
  exact hrows

theorem csvHolds_start {run : List AuditOp} {header : List (List Text)}
    (h : CsvHolds str run header) (running : Bool) (esp32 : ESP32Interface) (writes : Bool) :
    ∃ header', CsvHolds str (run ++ [.start running esp32 writes]) header' := by
  have hentries : written str AuditOp.csvWrites (run ++ [.start running esp32 writes])
      = written str AuditOp.csvWrites run := by
    rw [written_concat]
    exact List.append_nil _
  have hfile : (audited str (run ++ [.start running esp32 writes])).logger.csvFile
      = CSVLogger.ensureHeader (audited str run).logger.csvFile writes := by
    rw [audited_concat]
    rfl
  by_cases hfresh : (audited str run).logger.csvFile.getD [] = [] ∧ writes = true
  · -- the header is written into an empty file
    obtain ⟨hempty, rfl⟩ := hfresh
    have hnone := csvRows_eq_nil str (h.content.symm.trans hempty)
    refine ⟨[CSVLogger.headerRow], ?_, Or.inl ⟨?_, rfl⟩⟩
    · rw [hfile, hentries, hnone.2]
      unfold CSVLogger.ensureHeader csvRows
      rw [if_pos ⟨hempty, rfl⟩]
      simp
    · exact (headerFirst_concat str run _).mpr (Or.inr ⟨⟨running, esp32, rfl⟩, hnone.2⟩)
  · refine ⟨header, ?_, ?_⟩
    · rw [hfile, hentries]
      unfold CSVLogger.ensureHeader
      rw [if_neg hfresh]
      exact h.content
    · have hsame : HeaderFirst str (run ++ [.start running esp32 writes])
          ↔ HeaderFirst str run := by
        rw [headerFirst_concat]
        refine or_iff_left_of_imp ?_
        rintro ⟨⟨running', esp32', hop⟩, hnone⟩
        obtain ⟨-, -, rfl⟩ := AuditOp.start.inj hop
        -- nothing was written and yet the file is not empty: it starts with a header
        rcases h.header with ⟨hfirst, -⟩ | ⟨-, hheader⟩
        · exact hfirst
        · have hcontent := h.content
          rw [hnone, hheader] at hcontent
          exact absurd ⟨hcontent, rfl⟩ hfresh
      rw [hsame]
      exact h.header

theorem csvHolds_step {run : List AuditOp} {header : List (List Text)}
    (h : CsvHolds str run header) {op : AuditOp} (hop : AuditOp.isStart op = false) :
    CsvHolds str (run ++ [op]) header := by
  have hsame : HeaderFirst str (run ++ [op]) ↔ HeaderFirst str run := by
    rw [headerFirst_concat]
    refine or_iff_left_of_imp ?_
    rintro ⟨⟨running, esp32, rfl⟩, -⟩
    cases hop
  refine ⟨?_, by rw [hsame]; exact h.header⟩
  rw [audited_concat, csvFile_step str _ hop, h.content, written_concat]
  unfold csvRows
  rw [List.map_append, ← List.append_assoc]
  refine Eq.trans ?_ List.flatMap_append.symm
  rw [List.flatMap_map]
  rfl

theorem csvHolds (run : List AuditOp) : ∃ header, CsvHolds str run header := by
  induction run using List.reverseRecOn with
  | nil =>
      refine ⟨[], rfl, Or.inr ⟨?_, rfl⟩⟩
      rintro ⟨before, running, esp32, rest, hrun, -⟩
      exact absurd hrun.symm (by simp)
  | append_singleton run op ih =>
      obtain ⟨header, h⟩ := ih
      cases op with
      | start running esp32 writes => exact csvHolds_start str h running esp32 writes
      | step i reply a => exact ⟨header, csvHolds_step str h rfl⟩
      | command c => exact ⟨header, csvHolds_step str h rfl⟩
      | configure minimum maximum => exact ⟨header, csvHolds_step str h rfl⟩

/--
**The CSV file reads as a table of what was logged.**

Whatever the texts in it hold and whichever writes fail, it reads as one row for each entry
that was written, in order; before them stands the header, once, if a start could write it
before the first row, and never otherwise.
-/
theorem csv_file_reads (run : List AuditOp) :
    ∃ header, Csv.read ((audited str run).logger.csvFile.getD [])
        = header ++ (written str AuditOp.csvWrites run).map (fun l => CSVLogger.row str l.toDict)
      ∧ (HeaderFirst str run ∧ header = [CSVLogger.headers.map String.toList]
        ∨ ¬HeaderFirst str run ∧ header = []) := by
  obtain ⟨header, h⟩ := csvHolds str run
  refine ⟨header, ?_, h.header⟩
  rw [h.content, Csv.read_writeRows]
  rfl

/-! ## The JSON-Lines file -/

theorem floatPrintable_round {d : Nat} (h : d ∈ List.range' 1 17) (q : Rat) :
    JsonText.FloatPrintable (.finite (roundDigits d q)) := by
  refine ⟨d, h, roundDigits_of_decimal d (n := roundHalfEven (q * 10 ^ d)) ?_⟩
  unfold roundDigits
  field_simp

theorem printable_entry (l : DecisionLog) : JsonText.Printable (.obj l.toDict.items) := by
  have hjson : JsonText.Printable (l.hardwareCommandJson.elim .null .str) := by
    cases l.hardwareCommandJson <;> trivial
  exact ⟨floatPrintable_round (by decide) _, trivial, trivial, trivial, trivial, trivial, trivial,
    trivial, trivial, floatPrintable_round (by decide) _, trivial, trivial, hjson, trivial⟩

theorem itemsPrintable_of_forall {items : List Json} (h : ∀ j ∈ items, JsonText.Printable j) :
    JsonText.ItemsPrintable items := by
  induction items with
  | nil => trivial
  | cons j items ih =>
      exact ⟨h j List.mem_cons_self, ih fun j' hj' => h j' (List.mem_cons_of_mem _ hj')⟩

theorem printable_command (c : HardwareCommand) : JsonText.Printable (.obj c.toDict.items) := by
  have hlanes : JsonText.Printable (.arr (c.redLanes.map fun r => .str r.value)) := by
    refine itemsPrintable_of_forall fun j hj => ?_
    obtain ⟨r, -, rfl⟩ := List.mem_map.mp hj
    trivial
  exact ⟨trivial, trivial, trivial, trivial, trivial, hlanes, floatPrintable_round (by decide) _,
    trivial, trivial, floatPrintable_round (by decide) _, trivial⟩

/-- The lines of the JSON file. -/
def jsonLines (run : List AuditOp) : List Text :=
  fileLines ((audited str run).logger.jsonFile.getD [])

theorem jsonLines_eq (run : List AuditOp) :
    jsonLines str run = (written str AuditOp.jsonWrites run).map fun l =>
      JsonText.dumps none (.obj l.toDict.items) := by
  have hcontent : (audited str run).logger.jsonFile.getD []
      = (written str AuditOp.jsonWrites run).flatMap fun l =>
        JsonText.dumps none (.obj l.toDict.items) ++ ['\n'] := by
    induction run using List.reverseRecOn with
    | nil => rfl
    | append_singleton run op ih =>
        rw [audited_concat, jsonFile_step, ih, written_concat, List.flatMap_append]
        rfl
  have hlines := flatMap_lineEnd
    ((written str AuditOp.jsonWrites run).map fun l => JsonText.dumps none (.obj l.toDict.items))
  rw [List.flatMap_map] at hlines
  unfold jsonLines
  rw [hcontent, hlines, fileLines_joinLines]
  intro line hline
  obtain ⟨l, -, rfl⟩ := List.mem_map.mp hline
  exact JsonText.isLine_dumps _

/-- The entry is the record of a command. -/
structure Records (l : DecisionLog) (cmd : HardwareCommand) : Prop where
  json : l.hardwareCommandJson = some (String.ofList cmd.toJson)
  lane : l.selectedLane = lastPartUpper cmd.greenLane.value
  green : l.greenDuration = cmd.greenDurationSec
  yellow : l.yellowDuration = cmd.yellowDurationSec
  reason : l.decisionReason = lastPartUpper cmd.reason.value

/-- Nothing was sent or logged, or a command was sent and recorded. -/
def Accounted (out : AuditOutput) : Prop :=
  (out.logged = none ∧ out.sent = none)
    ∨ ∃ l cmd, out.logged = some l ∧ out.sent = some cmd ∧ Records l cmd

/-- The command of a result has its decision. -/
theorem command_of_phase {w : PipelineWorld} {i : StepInput} {cmd : HardwareCommand}
    (h : (w.processStep i).2.command = some cmd) :
    ∃ d, (w.processStep i).2.signalDecision = some d ∧ d.phaseId = w.pipeline.phaseCounter + 1
      ∧ (w.processStep i).1.pipeline.phaseCounter = w.pipeline.phaseCounter + 1
      ∧ cmd = (w.pipeline.signalController.generateCommand d).1 := by
  unfold PipelineResult.command at h
  split_ifs at h with hc
  rw [Bool.and_eq_true, Bool.and_eq_true] at hc
  obtain ⟨⟨-, hchange⟩, -⟩ := hc
  obtain ⟨-, ⟨-, d, hs⟩ | ⟨hn, -⟩⟩ := step_counts w i
  · obtain ⟨r, d', -, hstep⟩ := processStep_of_isPhaseChange hchange
    have hdecision : (w.processStep i).2.signalDecision = some d' := by rw [hstep]; rfl
    have hsame : d' = d := by
      have hstarted := hs.started
      unfold startedBy at hstarted
      rw [Option.bind_some, if_pos hchange, hdecision] at hstarted
      exact Option.some.inj hstarted
    subst hsame
    refine ⟨d', hdecision, hs.phaseId, hs.pipeline, ?_⟩
    rw [hstep] at h
    have hcontroller : (w.selecting i).signalController = w.pipeline.signalController :=
      observed_signalController w i
    rw [← hcontroller]
    exact (Option.some.inj h).symm
  · have hstarted := hn.started
    obtain ⟨r, d', -, hstep⟩ := processStep_of_isPhaseChange hchange
    unfold startedBy at hstarted
    rw [Option.bind_some, if_pos hchange, hstep] at hstarted
    cases hstarted

/-- **What is sent is recorded, and nothing else is.** -/
theorem step_accounted (s : AuditedPipeline) (op : AuditOp) : Accounted (s.step str op).2 := by
  cases op with
  | start running esp32 writes => exact Or.inl ⟨rfl, rfl⟩
  | step i reply a =>
      have hsent := processResult_sent s.control.systemRunning s.control.esp32
        (s.control.world.processStep i).2 reply
      unfold Accounted
      dsimp only [AuditedPipeline.step]
      rw [hsent]
      unfold PipelineResult.logEntry
      cases hcmd : (s.control.world.processStep i).2.command with
      | none => exact Or.inl ⟨rfl, rfl⟩
      | some cmd =>
          obtain ⟨d, hd, -, -, rfl⟩ := command_of_phase hcmd
          rw [hd]
          exact Or.inr ⟨_, _, rfl, rfl, rfl, rfl, rfl, rfl, rfl⟩
  | command c => exact Or.inl ⟨rfl, rfl⟩
  | configure minimum maximum => exact Or.inl ⟨rfl, rfl⟩

theorem accounted_of_mem {run : List AuditOp} {e : Event AuditedPipeline AuditOp AuditOutput}
    (he : e ∈ trail str run) : Accounted e.out := by
  obtain ⟨before, op, rest, -, rfl⟩ := (mem_events_iff _).mp he
  exact step_accounted str _ op

/-- The operation is a step that looks for a new phase and finds every approach empty. -/
def FoundNobody (s : AuditedPipeline) : AuditOp → Prop
  | .step i _ _ => FindsNobody s.control.world (.step i)
  | _ => False

/-- The two phase counters agree. -/
def InStep (s : AuditedPipeline) : Prop :=
  s.control.world.pipeline.signalController.phaseCounter
    = s.control.world.pipeline.phaseCounter

theorem inStep_world {s : AuditedPipeline} (h : InStep s) (op : PipelineOp)
    (hok : ¬FindsNobody s.control.world op) :
    (pipelineStep s.control.world op).1.pipeline.signalController.phaseCounter
      = (pipelineStep s.control.world op).1.pipeline.phaseCounter := by
  have hnow : s.control.world.pipeline.signalController.phaseCounter
      = s.control.world.pipeline.phaseCounter := h
  obtain ⟨-, ⟨-, d, hs⟩ | ⟨hn, hcount⟩⟩ := pipelineStep_counts s.control.world op
  · rw [hs.controller, hs.pipeline, hnow]
  · rw [if_neg hok] at hcount
    rw [hn.controller, hcount, hnow, Nat.add_zero]

theorem inStep_step (s : AuditedPipeline) (op : AuditOp) (h : InStep s)
    (hok : ¬FoundNobody s op) : InStep (s.step str op).1 := by
  cases op with
  | start running esp32 writes => rfl
  | step i reply a => exact inStep_world h (.step i) hok
  | command c => exact inStep_world h (.command c) fun hno => hno
  | configure minimum maximum =>
      exact inStep_world h (.configure minimum maximum) fun hno => hno

/--
**The log tells what the controller was told.**

Nothing is logged that is not sent, and nothing sent that is not logged: the entry holds the
text of the command, with its lane, its durations and its reason. As long as no step has
found every approach empty, the two also give the phase the same number.
-/
theorem sent_as_logged (run : List AuditOp) : (∀ e ∈ trail str run, Accounted e.out)
    ∧ ((∀ e ∈ trail str run, ¬FoundNobody e.pre e.input) →
      ∀ e ∈ trail str run, ∀ l ∈ e.out.logged, ∀ cmd ∈ e.out.sent, l.phaseId = cmd.phaseId) := by
  constructor
  · exact fun e he => accounted_of_mem str he
  · intro hok e he l hl cmd hcmd
    have hstart : InStep {} := rfl
    have hpre : InStep e.pre := (events_invariant (inStep_step str) hstart hok e he).1
    obtain ⟨before, op, rest, -, rfl⟩ := (mem_events_iff _).mp he
    cases op with
    | start running esp32 writes => cases hl
    | step i reply a =>
        have hsent := processResult_sent (audited str before).control.systemRunning
          (audited str before).control.esp32
          ((audited str before).control.world.processStep i).2 reply
        have hcommand : ((audited str before).control.world.processStep i).2.command = some cmd :=
          hsent.symm.trans hcmd
        obtain ⟨d, hd, hid, -, rfl⟩ := command_of_phase hcommand
        have hentry : l.phaseId = d.phaseId := by
          have hlogged : ((audited str before).control.world.processStep i).2.logEntry a
              ((audited str before).control.world.health i a.detections) = some l := hl
          unfold PipelineResult.logEntry at hlogged
          rw [hcommand, hd] at hlogged
          rw [← Option.some.inj hlogged]
          rfl
        have hcounters : (audited str before).control.world.pipeline.signalController.phaseCounter
            = (audited str before).control.world.pipeline.phaseCounter := hpre
        show l.phaseId
          = (audited str before).control.world.pipeline.signalController.phaseCounter + 1
        rw [hentry, hid, hcounters]
    | command c => cases hl
    | configure minimum maximum => cases hl

/-- The command in a line of the JSON file, as its reader finds it. -/
def commandOfLine (line : Text) : Option Json :=
  (JsonText.loads line).bind fun entry =>
    match entry with
    | .obj fields =>
        match fields.lookup "hardware_command_json" with
        | some (.str text) => JsonText.loads text.toList
        | _ => none
    | _ => none

theorem commandOfLine_entry {l : DecisionLog} {cmd : HardwareCommand} (h : Records l cmd) :
    commandOfLine (JsonText.dumps none (.obj l.toDict.items)) = some (.obj cmd.toDict.items) := by
  have hfield : l.toDict.items.lookup "hardware_command_json"
      = some (l.hardwareCommandJson.elim .null .str) := rfl
  unfold commandOfLine
  rw [JsonText.loads_dumps none (printable_entry l), Option.bind_some]
  dsimp only
  rw [hfield, h.json]
  show JsonText.loads (String.ofList cmd.toJson).toList = _
  rw [String.toList_ofList]
  exact JsonText.loads_dumps (some 2) (printable_command cmd)

/-- The commands sent whose entry was written, in order. -/
def sentAndWritten (run : List AuditOp) : List HardwareCommand :=
  (trail str run).filterMap fun e => if AuditOp.jsonWrites e.input then e.out.sent else none

/--
**The JSON file replays the commands.**

Every line reads back as the entry it was written for, and the command inside it reads back
as the one that was sent: over any number of starts the file lists exactly the commands sent
whose entry could be written, in order.
-/
theorem json_file_replays (run : List AuditOp) :
    (jsonLines str run).map JsonText.loads
        = (written str AuditOp.jsonWrites run).map (fun l => some (.obj l.toDict.items))
      ∧ (jsonLines str run).map commandOfLine
        = (sentAndWritten str run).map fun cmd => some (.obj cmd.toDict.items) := by
  rw [jsonLines_eq, List.map_map, List.map_map]
  constructor
  · refine List.map_congr_left fun l _ => ?_
    exact JsonText.loads_dumps none (printable_entry l)
  · unfold written sentAndWritten
    rw [List.map_filterMap, List.map_filterMap]
    refine List.filterMap_congr fun e he => ?_
    have haccounted := accounted_of_mem str he
    unfold kept
    cases AuditOp.jsonWrites e.input with
    | false => rfl
    | true =>
        rcases haccounted with ⟨hl, hc⟩ | ⟨l, cmd, hl, hc, hrecords⟩
        · rw [if_pos rfl, if_pos rfl, hl, hc]
          rfl
        · rw [if_pos rfl, if_pos rfl, hl, hc]
          exact congrArg some (commandOfLine_entry hrecords)

/-! ## The history -/

def goesOn (e : Event AuditedPipeline AuditOp AuditOutput) : Bool := !AuditOp.isStart e.input

/-- The entries logged since the last start. -/
def lifetime (run : List AuditOp) : List DecisionLog :=
  ((trail str run).rtakeWhile goesOn).filterMap fun e => e.out.logged

theorem lifetime_start (run : List AuditOp) (op : AuditOp) (h : AuditOp.isStart op = true) :
    lifetime str (run ++ [op]) = [] := by
  have hstop : ¬goesOn (lastEvent str run op) = true := by
    show ¬(!AuditOp.isStart op) = true
    rw [h]
    exact Bool.false_ne_true
  unfold lifetime
  rw [trail_concat, List.rtakeWhile_concat_neg _ _ _ hstop]
  rfl

theorem lifetime_concat (run : List AuditOp) {op : AuditOp} (h : AuditOp.isStart op = false) :
    lifetime str (run ++ [op])
      = lifetime str run ++ (lastEvent str run op).out.logged.toList := by
  have hgo : goesOn (lastEvent str run op) = true := by
    show (!AuditOp.isStart op) = true
    rw [h]
    rfl
  unfold lifetime
  rw [trail_concat, List.rtakeWhile_concat_pos _ _ _ hgo, List.filterMap_append,
    filterMap_singleton]

/-- What the history and the phase counter know of the running program. -/
structure Newest (run : List AuditOp) : Prop where
  records : (audited str run).logger.history
    = { records := (lifetime str run).reverse.take 10 }
  increasing : ((lifetime str run).map (·.phaseId)).Pairwise (· < ·)
  /-- The pipeline has counted every phase that was logged. -/
  counted : ∀ l ∈ lifetime str run,
    l.phaseId ≤ (audited str run).control.world.pipeline.phaseCounter

/-- An operation that logs nothing. -/
theorem newest_silent {run : List AuditOp} (h : Newest str run) {op : AuditOp}
    (hop : AuditOp.isStart op = false)
    (hlogged : ((audited str run).step str op).2.logged = none)
    (hhistory : ((audited str run).step str op).1.logger.history
      = (audited str run).logger.history)
    (hcount : (audited str run).control.world.pipeline.phaseCounter
      ≤ ((audited str run).step str op).1.control.world.pipeline.phaseCounter) :
    Newest str (run ++ [op]) := by
  have hlife : lifetime str (run ++ [op]) = lifetime str run := by
    have hout : (lastEvent str run op).out.logged = none := hlogged
    rw [lifetime_concat str run hop, hout, Option.toList_none, List.append_nil]
  refine ⟨?_, ?_, ?_⟩
  · rw [audited_concat, hhistory, hlife]
    exact h.records
  · rw [hlife]
    exact h.increasing
  · rw [hlife, audited_concat]
    exact fun l hl => (h.counted l hl).trans hcount

theorem newest_step {run : List AuditOp} (h : Newest str run) (i : StepInput)
    (reply : SerialReply) (a : LogInput) : Newest str (run ++ [.step i reply a]) := by
  have hcount : (audited str run).control.world.pipeline.phaseCounter
      ≤ ((audited str run).control.world.processStep i).1.pipeline.phaseCounter := by
    obtain ⟨-, ⟨-, d, hs⟩ | ⟨-, hn⟩⟩ := step_counts (audited str run).control.world i
    · rw [hs.pipeline]
      omega
    · rw [hn]
      omega
  cases hcmd : ((audited str run).control.world.processStep i).2.command with
  | none =>
      -- a step without a command logs nothing
      have hnone : ((audited str run).control.world.processStep i).2.logEntry a
          ((audited str run).control.world.health i a.detections) = none := by
        unfold PipelineResult.logEntry
        rw [hcmd]
        rfl
      refine newest_silent str h rfl hnone ?_ hcount
      dsimp only [AuditedPipeline.step]
      rw [hnone]
      rfl
  | some cmd =>
      obtain ⟨d, hd, hid, hcounter, -⟩ := command_of_phase hcmd
      have hsome : ((audited str run).control.world.processStep i).2.logEntry a
          ((audited str run).control.world.health i a.detections)
        = some (decisionLog a d cmd
          ((audited str run).control.world.processStep i).2.intersectionState
          ((audited str run).control.world.health i a.detections)) := by
        unfold PipelineResult.logEntry
        rw [hcmd, hd]
        rfl
      generalize hl : decisionLog a d cmd _ _ = l at hsome
      -- the logged phase is the one after the counter
      have hnumber : l.phaseId = (audited str run).control.world.pipeline.phaseCounter + 1 := by
        rw [← hl]
        exact hid
      have hlife : lifetime str (run ++ [.step i reply a]) = lifetime str run ++ [l] := by
        have hout : (lastEvent str run (.step i reply a)).out.logged = some l := hsome
        rw [lifetime_concat str run rfl, hout, Option.toList_some]
      refine ⟨?_, ?_, ?_⟩
      · -- the record goes in front of the history
        have hlogger : (audited str (run ++ [.step i reply a])).logger.history
            = (audited str run).logger.history.add l := by
          rw [audited_concat]
          dsimp only [AuditedPipeline.step]
          rw [hsome]
          rfl
        rw [hlogger, hlife, h.records, List.reverse_append]
        unfold DecisionHistory.add
        simp [List.take_take]
      · -- earlier phases are at most the counter, so the ids still increase
        rw [hlife, List.map_append, List.pairwise_append]
        refine ⟨h.increasing, List.pairwise_singleton _ _, fun n hn m hm => ?_⟩
        obtain ⟨l', hl', rfl⟩ := List.mem_map.mp hn
        have hm' : m = l.phaseId := List.mem_singleton.mp hm
        have hle := h.counted l' hl'
        omega
      · intro l' hl'
        have hnow : (audited str (run ++ [.step i reply a])).control.world.pipeline.phaseCounter
            = (audited str run).control.world.pipeline.phaseCounter + 1 := by
          rw [audited_concat]
          exact hcounter
        rw [hnow]
        rw [hlife] at hl'
        rcases List.mem_append.mp hl' with hl' | hl'
        · have hle := h.counted l' hl'
          omega
        · rw [List.mem_singleton.mp hl', hnumber]

theorem newest (run : List AuditOp) : Newest str run := by
  induction run using List.reverseRecOn with
  | nil => exact ⟨rfl, List.Pairwise.nil, fun l hl => by cases hl⟩
  | append_singleton run op ih =>
      cases op with
      | start running esp32 writes =>
          have hlife := lifetime_start str run (.start running esp32 writes) rfl
          refine ⟨?_, ?_, ?_⟩
          · rw [hlife, audited_concat]
            rfl
          · rw [hlife]
            exact List.Pairwise.nil
          · rw [hlife]
            intro l hl
            cases hl
      | step i reply a => exact newest_step str ih i reply a
      | command c =>
          refine newest_silent str ih rfl rfl rfl ?_
          have hcounts := (pipelineStep_counts (audited str run).control.world (.command c)).2
          rcases hcounts with ⟨-, d, hs⟩ | ⟨-, hn⟩
          · exact hs.pipeline.symm ▸ Nat.le_succ _
          · exact hn.symm ▸ Nat.le_add_right _ _
      | configure minimum maximum =>
          refine newest_silent str ih rfl rfl rfl ?_
          have hcounts :=
            (pipelineStep_counts (audited str run).control.world (.configure minimum maximum)).2
          rcases hcounts with ⟨-, d, hs⟩ | ⟨-, hn⟩
          · exact hs.pipeline.symm ▸ Nat.le_succ _
          · exact hn.symm ▸ Nat.le_add_right _ _

/--
**The history is the newest of what the running program logged.**

After any run it holds the last ten entries since the last start, newest first, and the
overlay shows the last three of them; their phase numbers fall from each to the next, so no
phase is listed twice.
-/
theorem history_is_newest (run : List AuditOp) :
    (audited str run).logger.history.records = (lifetime str run).reverse.take 10
      ∧ (audited str run).logger.history.formatForHud 3
        = ((lifetime str run).reverse.take 3).map DecisionHistory.hudLine
      ∧ ((audited str run).logger.history.records.map (·.phaseId)).Pairwise (· > ·) := by
  have h := newest str run
  have hrecords := congrArg DecisionHistory.records h.records
  refine ⟨hrecords, ?_, ?_⟩
  · unfold DecisionHistory.formatForHud DecisionHistory.getRecent
    rw [h.records, List.take_take]
    rfl
  · rw [hrecords]
    have hfall : ((lifetime str run).reverse.map (·.phaseId)).Pairwise (· > ·) := by
      rw [List.map_reverse, List.pairwise_reverse]
      exact h.increasing
    rw [List.map_take]
    exact hfall.sublist (List.take_sublist _ _)

end

end SmartTraffic.Proof
