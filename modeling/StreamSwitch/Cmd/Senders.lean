import StreamSwitch.Cmd.CommandLine

/-!
# The command line of a sender

`ProcessSender` of `sender_mngr.py` writes it, and `ffmpeg_sender` reads it: `ParseArgv` and the
beginning of `main`. `FfmpegSender.main_runs` is that the program works with what the sender was
created for, unless its logger cannot be set up.
-/

namespace StreamSwitch

namespace Cmd

open Getopt (Text Item)

/-! ## The controller -/

/-- What a `ProcessSender` is created with. -/
structure ProcessSender where
  executable : Option Text := none
  senderType : Text
  senderName : Text
  destUrl : Text
  destFormat : Text := []
  streamName : Text := []
  streamHost : Text := []
  streamPort : Int := 0
  logFile : Option Text := none
  logSize : Int := 1024 * 1024
  logRotate : Int := 3
  logLevel : Int := 6
  extraOptions : List ExtraOption := []
deriving DecidableEq, Repr

namespace ProcessSender

/-- The checks of `BaseSender.__init__`. -/
def checkParams (s : ProcessSender) : Except String Unit :=
  if s.senderName = [] then .error "Sender name cannot be empty"
  else if s.destUrl = [] then .error "Sender dest url cannot be empty"
  else if s.streamName = [] ∧ s.streamHost = [] then
    .error "stream name or host cannot be both empty"
  else .ok ()

/-- `_generate_cmd_args`. -/
def generateCmdArgs (s : ProcessSender) : List Text :=
  [programName s.executable s.senderType, "-u".toList, s.destUrl] ++
    (if s.destFormat ≠ [] then ["-f".toList, s.destFormat] else []) ++
    (if s.streamName ≠ [] then ["-s".toList, s.streamName] else []) ++
    (if s.streamHost ≠ [] then
      ["-H".toList, s.streamHost, "-p".toList, decimal s.streamPort] else []) ++
    ["--log-level".toList, decimal s.logLevel] ++
    logArgs s.logFile s.logSize s.logRotate ++
    s.extraOptions.map extraArg

end ProcessSender

/-! ## The program -/

namespace FfmpegSender

/-- `FFmpegSenderArgParser` with its options. -/
def parser : ArgParser :=
  ({ ffmpegOptions := some [] } : ArgParser).registerBasicOptions.registerSenderOptions
    |>.registerOption "io-timeout" none { withArg := true, long := true }
    |>.registerOption "inter-frame-gap" none { withArg := true, long := true }
    |>.registerOption "duration" none { withArg := true, long := true }
    |>.registerOption "ffmpeg-[NAME]" none { withArg := true }
    |>.registerOption "acodec" none { withArg := true }
    |>.registerOption "debug-flags" 'd' { long := true, withArg := true }

def check (p : ArgParser) : Option String :=
  if !p.checkOption "stream-name" && !p.checkOption "host" then
    some "stream-name or host must be set for ffmpeg_sender\n"
  else if p.checkOption "host" && !p.checkOption "port" then
    some "port must be set for a remote source for ffmpeg_sender\n"
  else if p.optionValue "url" "" = [] then some "url cannot be empty string\n"
  else if p.checkOption "log-file" && !p.checkOption "log-size" then
    some "log-size must be set if log-file is enabled\n"
  else none

/-- What `main` works with. -/
structure Settings where
  url : Text
  format : Text
  ffmpegOptions : Text
  streamName : Text
  host : Text
  port : Int
  acodec : Text
  ioTimeout : Nat
  subQueueSize : Nat
  debugFlags : Nat
  maxDuration : Nat
  maxFrameGap : Nat
  logLevel : Int
  log : Option Log
deriving DecidableEq, Repr

/-- The values that `main` asks for; `io_timeout` is how the source spells it. -/
def settings (p : ArgParser) : Settings where
  url := p.optionValue "url" ""
  format := p.optionValue "format" ""
  ffmpegOptions := p.ffmpegOptions.getD []
  streamName := p.optionValue "stream-name" ""
  host := p.optionValue "host" ""
  port := intOf (strtol 0 (p.optionValue "port" "0"))
  acodec := p.optionValue "acodec" ""
  ioTimeout := strtoul (p.optionValue "io_timeout" "10000")
  subQueueSize := strtoul (p.optionValue "queue-size" "120") % 2 ^ 32
  debugFlags := strtoul (p.optionValue "debug-flags" "0") % 2 ^ 32
  maxDuration := strtoul (p.optionValue "duration" "0")
  maxFrameGap := strtoul (p.optionValue "inter-frame-gap" "20000")
  logLevel := intOf (strtol 0 (p.optionValue "log-level" "6"))
  log := logOf p

/-- `main` as far as it initialises the sender; `opens` says which files it can open. -/
def main (opens : Text → Bool) (argv : List Text) : Start Settings :=
  (parseArgv parser check argv).bind fun p =>
    withLogger opens (settings p).log (settings p).logLevel (settings p)

end FfmpegSender

/-! ## The options of the controller -/

namespace ProcessSender

/-- The names of the options that the controller gives itself. -/
def ownNames : List String :=
  ["url", "format", "stream-name", "host", "port", "log-level", "log-file", "log-size", "log-rotate"]

/-- Its options in their order. -/
def own (s : ProcessSender) : List OwnOption :=
  [⟨some 'u', "url", some s.destUrl⟩,
    ⟨some 'f', "format", if s.destFormat ≠ [] then some s.destFormat else none⟩,
    ⟨some 's', "stream-name", if s.streamName ≠ [] then some s.streamName else none⟩,
    ⟨some 'H', "host", if s.streamHost ≠ [] then some s.streamHost else none⟩,
    ⟨some 'p', "port", if s.streamHost ≠ [] then some (decimal s.streamPort) else none⟩,
    ⟨none, "log-level", some (decimal s.logLevel)⟩] ++
    logOptions s.logFile s.logSize s.logRotate

theorem args_own (s : ProcessSender) : s.generateCmdArgs =
    programName s.executable s.senderType ::
      ((OwnOption.items s.own).map Prod.fst ++ s.extraOptions.map extraItem).flatMap Item.args := by
  rw [List.flatMap_append, args_extras]
  unfold generateCmdArgs own logArgs logOptions
  split_ifs <;> simp [OwnOption.items, OwnOption.item, Item.args, Item.element]

theorem streamName_or_host {s : ProcessSender} (h : s.checkParams = .ok ()) :
    s.destUrl ≠ [] ∧ ¬(s.streamName = [] ∧ s.streamHost = []) := by
  unfold checkParams at h
  split_ifs at h with hname hurl hsource
  exact ⟨hurl, hsource⟩

end ProcessSender

namespace FfmpegSender

open ProcessSender (ownNames)

/-- What the program is to work with for a sender. `io_timeout` is no option of it. -/
def settingsFor (s : ProcessSender) : Settings where
  url := s.destUrl
  format := s.destFormat
  ffmpegOptions := commaSeparated (s.extraOptions.filterMap (ffmpegExtra parser))
  streamName := s.streamName
  host := s.streamHost
  port := if s.streamHost ≠ [] then intOf (longOf s.streamPort) else 0
  acodec := (extraValue "acodec" s.extraOptions).getD []
  ioTimeout := 10000
  subQueueSize := strtoul ((extraValue "queue-size" s.extraOptions).getD "120".toList) % 2 ^ 32
  debugFlags := strtoul ((extraValue "debug-flags" s.extraOptions).getD "0".toList) % 2 ^ 32
  maxDuration := strtoul ((extraValue "duration" s.extraOptions).getD "0".toList)
  maxFrameGap := strtoul ((extraValue "inter-frame-gap" s.extraOptions).getD "20000".toList)
  logLevel := intOf (longOf s.logLevel)
  log :=
    if s.logFile.getD [] ≠ [] then
      some ⟨s.logFile.getD [], intOf (longOf s.logSize), intOf (longOf s.logRotate)⟩
    else none

theorem fresh : Fresh parser := ⟨by decide, rfl, rfl⟩

/-- The program understands what the controller writes itself; `--url` is the only option that is
required. -/
theorem complete_own (s : ProcessSender) : Complete parser ownNames s.own where
  fits := by
    simp only [ProcessSender.own, logOptions, List.cons_append, List.nil_append, List.forall_mem_cons]
    exact ⟨⟨_, rfl, rfl, fun _ _ => rfl⟩, ⟨_, rfl, rfl, fun _ _ => rfl⟩, ⟨_, rfl, rfl, fun _ _ => rfl⟩,
      ⟨_, rfl, rfl, fun _ _ => rfl⟩, ⟨_, rfl, rfl, takes_given rfl _⟩,
      .apart (by decide) rfl rfl (takes_number rfl _), ⟨_, rfl, rfl, fun _ _ => rfl⟩,
      ⟨_, rfl, rfl, takes_given rfl _⟩, ⟨_, rfl, rfl, takes_given rfl _⟩, List.forall_mem_nil _⟩
  named := rfl
  nodup := by decide
  required e he hrequired := by
    have hurl : ∀ e ∈ parser.optionRegMap, e.flags.required = true → e.optName = "url".toList := by
      decide
    exact ⟨_, List.mem_cons_self, hurl e he hrequired, rfl⟩

section Reads

variable {s : ProcessSender} {q : ArgParser}

theorem check_reads (h : Reads parser q ownNames s.own s.extraOptions)
    (hparams : s.checkParams = .ok ()) :
    check q = none := by
  obtain ⟨hurl, hsource⟩ := ProcessSender.streamName_or_host hparams
  have hname : s.streamHost = [] → s.streamName ≠ [] := fun hhost hname => hsource ⟨hname, hhost⟩
  have hown := h.own
  simp only [ProcessSender.own, logOptions, List.cons_append, List.nil_append,
    List.forall_mem_cons] at hown
  unfold check ArgParser.checkOption ArgParser.optionValue
  simp only [hown]
  split_ifs <;> simp_all

theorem settings_reads (h : Reads parser q ownNames s.own s.extraOptions) :
    settings q = settingsFor s := by
  have htimeout : q.options.lookup "io_timeout".toList = none :=
    (h.extra "io_timeout" (by decide)).trans (if_neg (by decide))
  have hzero : intOf (strtol 0 "0".toList) = 0 := by decide
  have hten : strtoul (none.getD "10000".toList) = 10000 := by decide
  have hown := h.own
  simp only [ProcessSender.own, logOptions, List.cons_append, List.nil_append,
    List.forall_mem_cons] at hown
  obtain ⟨hurl, hformat, hname, hhost, hport, hlevel, hfile, hsize, hrotate, -⟩ := hown
  unfold settings settingsFor ArgParser.optionValue
  rw [logOf_given hfile hsize hrotate, h.ffmpegOptions, hurl, hformat, hname, hhost, hport, hlevel,
    htimeout, h.lookup "acodec" (by decide), h.lookup "queue-size" (by decide),
    h.lookup "debug-flags" (by decide), h.lookup "duration" (by decide),
    h.lookup "inter-frame-gap" (by decide), getD_given, getD_given, getD_given, strtol_given,
    apply_ite intOf, hzero, hten, Option.getD_some, Option.getD_some, strtol_decimal]
  rfl

end Reads

/-- **The program works with what the sender was created for**, where it has its logger. -/
theorem main_runs (opens : Text → Bool) {s : ProcessSender} (hparams : s.checkParams = .ok ())
    (hextra : ∀ o ∈ s.extraOptions, Understood parser ownNames o) :
    main opens s.generateCmdArgs =
      (loggerError opens s.logFile s.logSize s.logRotate).elim (.run (settingsFor s)) .noLogger := by
  obtain ⟨q, hreads, hparse⟩ := parseArgv_commandLine fresh (complete_own s) hextra
    (by decide) check (programName s.executable s.senderType)
  unfold main
  rw [ProcessSender.args_own, hparse, check_reads hreads hparams]
  show withLogger opens (settings q).log (settings q).logLevel (settings q) = _
  rw [settings_reads hreads]
  exact withLogger_given ..

/-- A stream of a camera, sent to a server. -/
def camera : ProcessSender where
  senderType := "ffmpeg_sender".toList
  senderName := "camera-1".toList
  destUrl := "rtmp://server/live".toList
  destFormat := "flv".toList
  streamName := "camera".toList
  logFile := some "/var/log/camera.log".toList
  extraOptions :=
    [("ffmpeg_rtmp_live".toList, some "live".toList), ("io_timeout".toList, some "5000".toList),
      ("queue-size".toList, some "64".toList), ("ffmpeg_re".toList, none)]

/-- The timeout that it asks for is not the one that the program works with; and it does not work
where it cannot open the log file. -/
theorem main_runs_camera : main (fun _ => true) camera.generateCmdArgs = .run
    { url := "rtmp://server/live".toList
      format := "flv".toList
      ffmpegOptions := "rtmp-live=live,re=1".toList
      streamName := "camera".toList
      host := []
      port := 0
      acodec := []
      ioTimeout := 10000
      subQueueSize := 64
      debugFlags := 0
      maxDuration := 0
      maxFrameGap := 20000
      logLevel := 6
      log := some ⟨"/var/log/camera.log".toList, 1048576, 3⟩ } ∧
    main (fun _ => false) camera.generateCmdArgs = .noLogger .system :=
  ⟨(main_runs (fun _ => true) (by decide) (by decide)).trans (by decide),
    (main_runs (fun _ => false) (by decide) (by decide)).trans (by decide)⟩

end FfmpegSender

end Cmd

end StreamSwitch
