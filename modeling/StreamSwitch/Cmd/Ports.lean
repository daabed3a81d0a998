import StreamSwitch.Cmd.CommandLine

/-!
# The command line of a port

`SubProcessPort` of `port_mngr.py` writes it, and `stsw_rtsp_port` reads it. `RtspPort.main_runs_port`
says which ports it refuses and what it works with for the others.
-/

namespace StreamSwitch

namespace Cmd

open Getopt (Text Item)

/-! ## The controller -/

/-- What a `SubProcessPort` is created with. -/
structure SubProcessPort where
  executable : Option Text := none
  portType : Text
  listenPort : Int := 0
  logFile : Option Text := none
  logSize : Int := 1024 * 1024
  logRotate : Int := 3
  extraOptions : List ExtraOption := []
deriving DecidableEq, Repr

/-- `_generate_cmd_args`. -/
def SubProcessPort.generateCmdArgs (s : SubProcessPort) : List Text :=
  [programName s.executable s.portType] ++
    (if s.listenPort ≠ 0 then ["-p".toList, decimal s.listenPort] else []) ++
    logArgs s.logFile s.logSize s.logRotate ++
    s.extraOptions.map extraArg

/-! ## The program -/

namespace RtspPort

/-- The parser with the options of `ParseArgv`. -/
def parser : ArgParser :=
  ({} : ArgParser).registerBasicOptions
    |>.registerOption "debug-flags" 'd' { long := true, withArg := true }
    |>.registerOption "port" 'p' { withArg := true, long := true }
    |>.registerOption "log-type" 't' { withArg := true }
    |>.registerOption "log-level" none { withArg := true }
    |>.registerOption "log-file" 'l' { withArg := true }
    |>.registerOption "log-size" 'L' { withArg := true, long := true }
    |>.registerOption "log-rotate" 'r' { withArg := true, long := true }
    |>.registerOption "buffer-num" none { withArg := true, long := true }
    |>.registerOption "buffer-ms" none { withArg := true, long := true }
    |>.registerOption "max-conns" none { withArg := true, long := true }
    |>.registerOption "max-rate" none { withArg := true, long := true }
    |>.registerOption "max-mbps" none { withArg := true, long := true }
    |>.registerOption "enable-rtcp-heartbeat" none {}
    |>.registerOption "stream-type" 's' { withArg := true }

def check (p : ArgParser) : Option String :=
  if p.optionValue "log-type" "stderr" = "file".toList ∧ !p.checkOption "log-file" then
    some "log-file must be set if log-type is \"file\"\n"
  else if p.checkOption "log-file" then
    if !p.checkOption "log-size" then
      some "log-size must be set if log-file is enabled for text sink\n"
    else if strtol 0 (p.optionValue "log-size" "0") < 1024 then
      some "log-size cannot be less than 1K bytes\n"
    else none
  else none

inductive LogType | out | sys | file
deriving DecidableEq, Repr

def logTypeOf (logType : Text) : LogType :=
  if logType = "stderr".toList then .out
  else if logType = "file".toList then .file
  else if logType = "syslog".toList then .sys
  else .out

inductive StreamType | raw | mp2p
deriving DecidableEq, Repr

def streamTypeOf (streamType : Text) : StreamType :=
  if streamType = "raw".toList then .raw else if streamType = "mp2p".toList then .mp2p else .raw

/-- `server_config`, as far as `command_environment` sets it. -/
structure Settings where
  port : Int
  errorlogFile : Text
  logType : LogType
  /-- Size and number of rotations of a log that is a file. -/
  rotation : Option (Int × Int)
  loglevel : Int
  bufferedFrames : Int
  bufferedMs : Int
  maxConns : Int
  maxRate : Int
  maxMbps : Int
  rtcpHeartbeat : Bool
  stswDebugFlags : Int
  defaultStreamType : StreamType
deriving DecidableEq, Repr

/-- `command_environment`: the fields are shorter than the numbers that are read. -/
def settings (p : ArgParser) : Settings :=
  let logType := logTypeOf
    (p.optionValue "log-type" (if p.checkOption "log-file" then "file" else "stderr"))
  { port := shortOf (strtol 0 (p.optionValue "port" "554"))
    errorlogFile := p.optionValue "log-file" "errlog.log"
    logType := logType
    rotation :=
      if logType = .file then
        some (intOf (strtol 0 (p.optionValue "log-size" "0")),
          intOf (strtol 0 (p.optionValue "log-rotate" "0")))
      else none
    loglevel := shortOf (strtol 0 (p.optionValue "log-level" "3"))
    bufferedFrames := shortOf (strtol 0 (p.optionValue "buffer-num" "2048"))
    bufferedMs := shortOf (strtol 0 (p.optionValue "buffer-ms" "2000"))
    maxConns := strtol 0 (p.optionValue "max-conns" "1000") % 2 ^ 16
    maxRate := strtol 0 (p.optionValue "max-rate" "16") % 2 ^ 16
    maxMbps := strtol 0 (p.optionValue "max-mbps" "100") % 2 ^ 16
    rtcpHeartbeat := p.checkOption "enable-rtcp-heartbeat"
    stswDebugFlags := strtol 0 (p.optionValue "debug-flags" "0") % 2 ^ 32
    defaultStreamType := streamTypeOf (p.optionValue "stream-type" "raw") }

/-- `main` as far as `command_environment`, which also goes on without a logger. -/
def main (argv : List Text) : Start Settings :=
  (parseArgv parser check argv).bind fun p => .run (settings p)

end RtspPort

/-! ## The options of the controller -/

namespace SubProcessPort

/-- The names of the options that the controller gives itself. -/
def ownNames : List String := ["port", "log-file", "log-size", "log-rotate"]

/-- Its options in their order. -/
def own (s : SubProcessPort) : List OwnOption :=
  ⟨some 'p', "port", if s.listenPort ≠ 0 then some (decimal s.listenPort) else none⟩ ::
    logOptions s.logFile s.logSize s.logRotate

theorem args_own (s : SubProcessPort) : s.generateCmdArgs =
    programName s.executable s.portType ::
      ((OwnOption.items s.own).map Prod.fst ++ s.extraOptions.map extraItem).flatMap Item.args := by
  rw [List.flatMap_append, args_extras]
  unfold generateCmdArgs own logArgs logOptions
  split_ifs <;> simp [OwnOption.items, OwnOption.item, Item.args]

end SubProcessPort

namespace RtspPort

/-- Why the program does not work for a port. -/
def refusal (s : SubProcessPort) : Option String :=
  if s.logFile.getD [] ≠ [] then
    if s.logSize < 1024 then some "log-size cannot be less than 1K bytes\n" else none
  else if extraValue "log-type" s.extraOptions = some "file".toList then
    some "log-file must be set if log-type is \"file\"\n"
  else none

/-- What the program is to work with for a port. -/
def settingsFor (s : SubProcessPort) : Settings :=
  let logType := logTypeOf ((extraValue "log-type" s.extraOptions).getD
    (if s.logFile.getD [] ≠ [] then "file".toList else "stderr".toList))
  let number (name default : String) :=
    strtol 0 ((extraValue name s.extraOptions).getD default.toList)
  { port := if s.listenPort ≠ 0 then shortOf (longOf s.listenPort) else 554
    errorlogFile := if s.logFile.getD [] ≠ [] then s.logFile.getD [] else "errlog.log".toList
    logType := logType
    rotation :=
      if logType = .file then some (intOf (longOf s.logSize), intOf (longOf s.logRotate)) else none
    loglevel := shortOf (number "log-level" "3")
    bufferedFrames := shortOf (number "buffer-num" "2048")
    bufferedMs := shortOf (number "buffer-ms" "2000")
    maxConns := number "max-conns" "1000" % 2 ^ 16
    maxRate := number "max-rate" "16" % 2 ^ 16
    maxMbps := number "max-mbps" "100" % 2 ^ 16
    rtcpHeartbeat := (extraValue "enable-rtcp-heartbeat" s.extraOptions).isSome
    stswDebugFlags := number "debug-flags" "0" % 2 ^ 32
    defaultStreamType := streamTypeOf ((extraValue "stream-type" s.extraOptions).getD "raw".toList) }

theorem fresh : Fresh parser := ⟨by decide, rfl, rfl⟩

/-- The program understands what the controller writes itself. -/
theorem complete_own (s : SubProcessPort) : Complete parser SubProcessPort.ownNames s.own where
  fits := by
    simp only [SubProcessPort.own, logOptions, List.forall_mem_cons]
    exact ⟨⟨_, rfl, rfl, takes_given rfl _⟩, ⟨_, rfl, rfl, fun _ _ => rfl⟩,
      ⟨_, rfl, rfl, takes_given rfl _⟩, ⟨_, rfl, rfl, takes_given rfl _⟩, List.forall_mem_nil _⟩
  named := rfl
  nodup := by decide
  required e he hrequired := by
    have hnone : ∀ e ∈ parser.optionRegMap, ¬e.flags.required = true := by decide
    exact absurd hrequired (hnone e he)

theorem logTypeOf_eq_file {logType : Text} : logTypeOf logType = .file ↔ logType = "file".toList := by
  unfold logTypeOf
  split_ifs with hstderr hfile hsyslog
  · rw [hstderr]
    decide
  · exact ⟨fun _ => hfile, fun _ => rfl⟩
  · exact iff_of_false (by decide) hfile
  · exact iff_of_false (by decide) hfile

theorem getD_eq_file {logType : Option Text} :
    logType.getD "stderr".toList = "file".toList ↔ logType = some "file".toList := by
  cases logType with
  | none => exact iff_of_false (by decide) (by decide)
  | some logType => exact Option.some_inj.symm

section Reads

variable {s : SubProcessPort} {q : ArgParser}

theorem check_reads (h : Reads parser q SubProcessPort.ownNames s.own s.extraOptions) :
    check q = refusal s := by
  have htype := h.lookup "log-type" (by decide)
  have hsmall : longOf s.logSize < 1024 ↔ s.logSize < 1024 := by
    unfold longOf
    omega
  have hown := h.own
  simp only [SubProcessPort.own, logOptions, List.forall_mem_cons] at hown
  obtain ⟨-, hfile, hsize, -⟩ := hown
  unfold check refusal ArgParser.checkOption ArgParser.optionValue
  rw [hfile, hsize, htype]
  by_cases hlog : s.logFile.getD [] ≠ []
  · simp only [if_pos hlog, Option.isSome_some, Bool.not_true, Bool.false_eq_true, and_false,
      if_false, if_true, Option.getD_some, strtol_decimal, hsmall]
  · simp only [if_neg hlog, Option.isSome_none, Bool.not_false, and_true, getD_eq_file,
      Bool.false_eq_true, if_false]

/-- A port that is not refused has a file for a log that is one. -/
theorem logFile_ne_nil (hnone : refusal s = none)
    (hfile : logTypeOf ((extraValue "log-type" s.extraOptions).getD
      (if s.logFile.getD [] ≠ [] then "file".toList else "stderr".toList)) = .file) :
    s.logFile.getD [] ≠ [] := by
  intro hempty
  have hlog : ¬s.logFile.getD [] ≠ [] := not_not.2 hempty
  unfold refusal at hnone
  rw [if_neg hlog] at hnone hfile
  rw [logTypeOf_eq_file, getD_eq_file] at hfile
  rw [if_pos hfile] at hnone
  cases hnone

theorem settings_reads (h : Reads parser q SubProcessPort.ownNames s.own s.extraOptions)
    (hnone : refusal s = none) : settings q = settingsFor s := by
  have hdefault : (if (if s.logFile.getD [] ≠ [] then some (s.logFile.getD []) else none).isSome = true
      then "file" else "stderr").toList =
        if s.logFile.getD [] ≠ [] then "file".toList else "stderr".toList := by
    by_cases hlog : s.logFile.getD [] ≠ []
    · rw [if_pos hlog, if_pos hlog]
      rfl
    · rw [if_neg hlog, if_neg hlog]
      rfl
  have herrorlog : (if s.logFile.getD [] ≠ [] then some (s.logFile.getD []) else none).getD
      "errlog.log".toList =
        if s.logFile.getD [] ≠ [] then s.logFile.getD [] else "errlog.log".toList := by
    split_ifs <;> rfl
  have hrtsp : shortOf (strtol 0 "554".toList) = 554 := by decide
  have hown := h.own
  simp only [SubProcessPort.own, logOptions, List.forall_mem_cons] at hown
  obtain ⟨hport, hlogFile, hlogSize, hlogRotate, -⟩ := hown
  unfold settings settingsFor ArgParser.optionValue ArgParser.checkOption
  dsimp only
  rw [hport, hlogFile, hlogSize, hlogRotate, h.lookup "log-type" (by decide),
    h.lookup "log-level" (by decide), h.lookup "buffer-num" (by decide),
    h.lookup "buffer-ms" (by decide), h.lookup "max-conns" (by decide),
    h.lookup "max-rate" (by decide), h.lookup "max-mbps" (by decide),
    h.lookup "enable-rtcp-heartbeat" (by decide), h.lookup "debug-flags" (by decide),
    h.lookup "stream-type" (by decide), hdefault, herrorlog, strtol_given,
    apply_ite shortOf, hrtsp]
  by_cases hfile : logTypeOf ((extraValue "log-type" s.extraOptions).getD
      (if s.logFile.getD [] ≠ [] then "file".toList else "stderr".toList)) = .file
  · have hlog := logFile_ne_nil hnone hfile
    rw [if_pos hfile, if_pos hfile, strtol_given, strtol_given]
    simp only [if_pos hlog]
  · rw [if_neg hfile, if_neg hfile]

end Reads

/-- **The program refuses a port for its log only**, and works with what it was created for else. -/
theorem main_runs_port {s : SubProcessPort}
    (hextra : ∀ o ∈ s.extraOptions, Understood parser SubProcessPort.ownNames o) :
    main s.generateCmdArgs =
      (refusal s).elim (.run (settingsFor s)) fun message => .failed message.toList := by
  obtain ⟨q, hreads, hparse⟩ := parseArgv_commandLine fresh (complete_own s) hextra (by decide) check
    (programName s.executable s.portType)
  unfold main
  rw [SubProcessPort.args_own, hparse, check_reads hreads]
  cases hrefusal : refusal s with
  | some message => rfl
  | none => exact congrArg Start.run (settings_reads hreads hrefusal)

/-- A port for cameras, above the numbers that are left for the system. -/
def cameras : SubProcessPort where
  executable := some "stsw_rtsp_port".toList
  portType := "stsw_rtsp_port".toList
  listenPort := 40554
  logFile := some "/var/log/rtsp.log".toList
  extraOptions := [("stream_type".toList, some "mp2p".toList), ("max_conns".toList, some "200".toList)]

/-- A port over 32767 is a negative number for the program. -/
theorem main_runs_cameras : main cameras.generateCmdArgs = .run
    { port := -24982
      errorlogFile := "/var/log/rtsp.log".toList
      logType := .file
      rotation := some (1048576, 3)
      loglevel := 3
      bufferedFrames := 2048
      bufferedMs := 2000
      maxConns := 200
      maxRate := 16
      maxMbps := 100
      rtcpHeartbeat := false
      stswDebugFlags := 0
      defaultStreamType := .mp2p } :=
  (main_runs_port (by decide)).trans (by decide)

end RtspPort

end Cmd

end StreamSwitch
