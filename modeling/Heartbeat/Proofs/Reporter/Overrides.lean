import Heartbeat.Proofs.Delivery.Flat
import Heartbeat.Proofs.Reporter.MetricsFile
import Heartbeat.Proofs.Settings.Overrides

/-!
# Reporters of overridden settings

A path may be written in many ways, and overridden settings have it in another way than the
variable that it could have been taken from.  That makes no difference to a reporter: it is
the same file that is opened, or the same failure that keeps it from being opened, and the
members are the same ones (`Reporter.build_exported`).  Only the warning about a file that
cannot be opened tells the two apart, since it quotes the path.
-/

namespace Heartbeat

set_option autoImplicit false

open Delivery World

/-! ## Settings that ask for the same -/

/-- Settings are alike if they differ at most in how the path of the metrics file is
written. -/
structure Settings.Alike (left right : Settings) : Prop where
  get_eq : ∀ setting, setting ≠ .metricsFile → left.get setting = right.get setting
  isTruthy_eq : left.metricsFile.isTruthy = right.metricsFile.isTruthy
  opens_eq : ∀ homes tree, FileTree.openMetricsFile homes tree left.metricsFile
    = FileTree.openMetricsFile homes tree right.metricsFile

/-- Taking a path apart before it is kept gives settings that are alike, unless there is
nothing to take apart: the empty path would be that of the directory itself. -/
theorem Choices.alike_override {choices : Choices} (written : ∀ path ∈ choices.path, path ≠ [])
    (settings : Settings) :
    (settings.override choices.overrides).Alike (settings.override choices.verbatim) := by
  refine ⟨fun _ other => choices.get_override_overrides settings other, ?_, fun homes tree => ?_⟩
  · rw [choices.metricsFile_override_overrides, choices.metricsFile_override_verbatim]
    cases chosen : choices.path with
    | none => rfl
    | some path =>
        exact (Value.isTruthy_text (Path.toText_ne_nil (Path.normal_ofText path))).trans
          (Value.isTruthy_text (written path chosen)).symm
  · rw [choices.metricsFile_override_overrides, choices.metricsFile_override_verbatim]
    cases choices.path with
    | none => rfl
    | some path => exact FileTree.openMetricsFile_toText homes tree path

/-! ## Reporters that are built alike -/

namespace Reporter

/-- Registering a resource is the same in both worlds. -/
theorem coupled_keep (lending : Lending) (resource : Resource) :
    Coupled SameButLog (keep lending resource) (keep lending resource) := by
  rw [keep]
  split
  · exact .modify fun _ _ same => (congrArg
      (fun world : World => { world with resources := resource :: world.resources }) same :)
  · exact .pure ()

/-- Entries that differ are offered to logs that may differ. -/
theorem coupled_logs (logger : LoggerName) (event other : LogEvent) :
    Coupled SameButLog (log logger event) (log logger other) :=
  .modify fun _ _ same => by
    rw [SameButLog, unlogged_logged, unlogged_logged]
    exact same

theorem coupled_streamSink (lending : Lending) :
    Coupled SameButLog (streamSink lending) (streamSink lending) := by
  rw [streamSink]
  cases lending.stream with
  | some label => exact .pure _
  | none =>
      exact .bind (.modify fun _ _ => congruence_sameButLog.setDestination _ _) fun _ => .pure _

theorem coupled_collectorSink (network : Network) (lending : Lending) (timeout : Value) :
    Coupled SameButLog (collectorSink network lending timeout)
      (collectorSink network lending timeout) := by
  rw [collectorSink]
  cases lending.client with
  | some label => exact .pure _
  | none =>
      refine .bind (.ofExcept _) fun client => ?_
      refine .bind (.modify fun _ _ => congruence_sameButLog.setClient _ trivial) fun _ => ?_
      refine .bind (coupled_note congruence_sameButLog rfl) fun _ => ?_
      exact .bind (coupled_keep lending _) fun _ => .pure _

section Alike

variable {left right : Settings} (alike : left.Alike right) (homes : Homes) (network : Network)
  (lending : Lending)

include alike

/-- The sink for the metrics file is the same, or it fails in the same way; the warning that
is given then may differ. -/
theorem coupled_fileSink? : Coupled SameButLog (fileSink? homes lending left.metricsFile)
    (fileSink? homes lending right.metricsFile) := by
  refine .get_bind fun first second same => ?_
  rw [congruence_sameButLog.files same, alike.opens_eq]
  rcases FileTree.openMetricsFile homes second.files right.metricsFile with
    ⟨failure | handle, files⟩
  · refine .bind (.modify fun _ _ => congruence_sameButLog.setFiles files) fun _ => ?_
    dsimp only
    split
    · exact .bind (coupled_logs _ _ _) fun _ => .pure none
    · exact .throw failure
  · refine .bind (.modify fun _ _ => congruence_sameButLog.setFiles files) fun _ => ?_
    refine .bind (.modify fun _ _ => congruence_sameButLog.setDestination _ _) fun _ => ?_
    exact .bind (coupled_keep lending _) fun _ => .pure _

/-- **Settings that are alike give the same reporter**, and the same world but for the
log. -/
theorem coupled_build : Coupled SameButLog (build homes network left lending)
    (build homes network right lending) := by
  have enabled : left.telemetryEnabled = right.telemetryEnabled :=
    Value.bool.inj (alike.get_eq .telemetryEnabled (by decide))
  have printed : left.stdout = right.stdout := alike.get_eq .stdout (by decide)
  have posted : left.httpEnabled = right.httpEnabled := alike.get_eq .httpEnabled (by decide)
  have timed : left.httpTimeout = right.httpTimeout := alike.get_eq .httpTimeout (by decide)
  have listed : Coupled SameButLog (members homes network left lending)
      (members homes network right lending) := by
    rw [members_eq, members_eq]
    refine .bind ?_ fun file => .bind ?_ fun stream => .bind ?_ fun collector => .pure _
    · rw [fileMember, fileMember, alike.isTruthy_eq]
      split
      · exact coupled_fileSink? alike homes lending
      · exact .pure none
    · rw [streamMember, streamMember, printed]
      split
      · exact .bind (coupled_streamSink lending) fun _ => .pure _
      · exact .pure none
    · rw [collectorMember, collectorMember, posted, timed]
      split
      · exact .bind (coupled_collectorSink network lending _) fun _ => .pure _
      · exact .pure none
  rw [build, build, enabled]
  split
  · exact .bind listed fun _ => .pure _
  · exact .bind (.pure []) fun _ => .pure _

end Alike

/-- **Overrides and variables are interchangeable.**  Wherever settings can be read from an
environment and its file, they can be read with the choices exported as well, and then every
setting but the metrics file is what overriding the first settings makes it.  Nothing is
overridden that was not chosen.  The path of the metrics file is as it was written in the
variable, and taken apart on the command line, but it leads to the same place: the same file
is opened in the same tree, or the same failure keeps it from being opened.  So whatever a
reporter is built for, it is the same reporter that is built, or the same failure that
building it ends with, in worlds that differ in the log at most. -/
theorem build_exported {choices : Choices} (written : ∀ path ∈ choices.path, path ≠ [])
    {environment changed : List (Text × Text)} (exported : choices.Exports environment changed)
    {file : List (Text × Option Text)} {settings : Settings}
    (resolved : Settings.resolve ⟨[], environment, file⟩ = .ok settings) :
    let overridden := settings.override choices.overrides
    ∃ read, Settings.resolve ⟨[], changed, file⟩ = .ok read
      ∧ (∀ setting, setting ≠ .metricsFile → overridden.get setting = read.get setting)
      ∧ (∀ setting, choices.value? setting = none →
        overridden.get setting = settings.get setting ∧ read.get setting = settings.get setting)
      ∧ (∀ path ∈ choices.path, overridden.metricsFile = .text (Path.ofText path).toText
        ∧ read.metricsFile = .text path)
      ∧ (∀ homes tree, FileTree.openMetricsFile homes tree overridden.metricsFile
        = FileTree.openMetricsFile homes tree read.metricsFile)
      ∧ ∀ homes network lending world,
        let commanded := (build homes network overridden lending).run.run world
        let declared := (build homes network read lending).run.run world
        commanded.1 = declared.1 ∧ commanded.2.unlogged = declared.2.unlogged := by
  intro overridden
  have alike := choices.alike_override written settings
  refine ⟨_, exported.resolve resolved, alike.get_eq, ?_, ?_, alike.opens_eq, ?_⟩
  · exact fun setting unchosen => Choices.get_override_of_unchosen unchosen settings
  · intro path chosen
    rw [choices.metricsFile_override_overrides, choices.metricsFile_override_verbatim,
      Option.mem_def.mp chosen]
    exact ⟨rfl, rfl⟩
  · intro homes network lending world
    exact coupled_build alike homes network lending world world rfl

/-- Two slashes in front of a path are kept when it is taken apart, and what makes no
difference is dropped.  The variable that is in capitals comes later than the other spelling
of its name, and so it counts. -/
theorem build_exported_slashes :
    let choices : Choices := ⟨some "//logs/./day//beats", some true, some false⟩
    let environment : List (Text × Text) := [("cli_metrics_stdout", "off"),
      ("CLI_METRICS_APP_NAME", "beats")]
    let settings : Settings := { Settings.standard with appName := "beats" }
    let overridden := settings.override choices.overrides
    overridden.metricsFile = .text "//logs/day/beats"
      ∧ ∃ read, Settings.resolve ⟨[], environment ++ choices.assignments, []⟩ = .ok read
        ∧ read.metricsFile = .text "//logs/./day//beats" ∧ read.stdout = .bool true
        ∧ read.httpEnabled = .bool false
        ∧ ∀ homes network lending world,
          ((build homes network overridden lending).run.run world).1
            = ((build homes network read lending).run.run world).1 := by
  intro choices environment settings overridden
  have written : ∀ path ∈ choices.path, path ≠ [] := by
    rintro _ ⟨⟩
    decide
  obtain ⟨read, resolved, same, _, paths, _, builds⟩ := build_exported written
    (choices.exports_append environment)
    (rfl : Settings.resolve ⟨[], environment, []⟩ = .ok settings)
  refine ⟨rfl, read, resolved, (paths _ rfl).2, ?_, ?_, fun homes network lending world => ?_⟩
  · exact (same .stdout (by decide)).symm
  · exact (same .httpEnabled (by decide)).symm
  · exact (builds homes network lending world).1

end Reporter

end Heartbeat
