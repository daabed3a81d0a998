import StreamSwitch.Cmd.CommandLine

/-!
# The command line of a source

`SourceProcessStream` of `stream_mngr.py` writes it, and `ffmpeg_demuxer_source` reads it.
`FfmpegSource.main_runs_stream` is that the program works with what the stream was created for, unless
its logger cannot be set up.
-/

namespace StreamSwitch

namespace Cmd

open Getopt (Text Item)

/-! ## The controller -/

/-- What a `SourceProcessStream` is created with. -/
structure SourceProcessStream where
  executable : Option Text := none
  sourceType : Text
  streamName : Text
  url : Text
  apiTcpPort : Int := 0
  logFile : Option Text := none
  logSize : Int := 1024 * 1024
  logRotate : Int := 3
  extraOptions : List ExtraOption := []
deriving DecidableEq, Repr

/-- `_generate_cmd_args`. -/
def SourceProcessStream.generateCmdArgs (s : SourceProcessStream) : List Text :=
  [programName s.executable s.sourceType, "-s".toList, s.streamName] ++
    ["-p".toList, decimal s.apiTcpPort] ++
    logArgs s.logFile s.logSize s.logRotate ++
    ["-u".toList, s.url] ++
    s.extraOptions.map extraArg

/-! ## The program -/

namespace FfmpegSource

/-- `FFmpegArgParser` with its options. -/
def parser : ArgParser :=
  ({ ffmpegOptions := some [] } : ArgParser).registerBasicOptions.registerSourceOptions
    |>.registerOption "io-timeout" none { withArg := true, long := true }
    |>.registerOption "local-max-gap" none { withArg := true, long := true }
    |>.registerOption "native-frame-rate" none {}
    |>.registerOption "ffmpeg-[NAME]" none { withArg := true }
    |>.registerOption "url" 'u' { required := true, withArg := true }
    |>.registerOption "debug-flags" 'd' { long := true, withArg := true }

def check (p : ArgParser) : Option String :=
  if p.checkOption "log-file" && !p.checkOption "log-size" then
    some "log-size must be set if log-file is enabled\n"
  else none

/-- What `main` works with. -/
structure Settings where
  input : Text
  streamName : Text
  ffmpegOptions : Text
  localGapMaxTime : Int
  ioTimeout : Nat
  nativeFrameRate : Bool
  sourceTcpPort : Int
  queueSize : Int
  debugFlags : Int
  logLevel : Int
  log : Option Log
deriving DecidableEq, Repr

/-- The values that `main` asks for; the queue holds `STSW_PUBLISH_SOCKET_HWM` messages by default. -/
def settings (p : ArgParser) : Settings where
  input := p.optionValue "url" ""
  streamName := p.optionValue "stream-name" ""
  ffmpegOptions := p.ffmpegOptions.getD []
  localGapMaxTime := intOf (strtol 0 (p.optionValue "local-max-gap" "20"))
  ioTimeout := strtoul (p.optionValue "io-timeout" "10000")
  nativeFrameRate := p.checkOption "native-frame-rate"
  sourceTcpPort := intOf (strtol 0 (p.optionValue "port" "0"))
  queueSize :=
    if p.checkOption "queue-size" then intOf (strtol 0 (p.optionValue "queue-size" "60")) else 100
  debugFlags := intOf (strtol 0 (p.optionValue "debug-flags" "0"))
  logLevel := intOf (strtol 0 (p.optionValue "log-level" "6"))
  log := logOf p

/-- `main` as far as it initialises the source; `opens` says which files it can open. -/
def main (opens : Text → Bool) (argv : List Text) : Start Settings :=
  (parseArgv parser check argv).bind fun p =>
    withLogger opens (settings p).log (settings p).logLevel (settings p)

end FfmpegSource

/-! ## The options of the controller -/

namespace SourceProcessStream

/-- The names of the options that the controller gives itself. -/
def ownNames : List String := ["stream-name", "port", "log-file", "log-size", "log-rotate", "url"]

/-- Its options in their order. -/
def own (s : SourceProcessStream) : List OwnOption :=
  [⟨some 's', "stream-name", some s.streamName⟩, ⟨some 'p', "port", some (decimal s.apiTcpPort)⟩] ++
    logOptions s.logFile s.logSize s.logRotate ++
    [⟨some 'u', "url", some s.url⟩]

theorem args_own (s : SourceProcessStream) : s.generateCmdArgs =
    programName s.executable s.sourceType ::
      ((OwnOption.items s.own).map Prod.fst ++ s.extraOptions.map extraItem).flatMap Item.args := by
  rw [List.flatMap_append, args_extras]
  unfold generateCmdArgs own logArgs logOptions
  split_ifs <;> simp [OwnOption.items, OwnOption.item, Item.args]

end SourceProcessStream

namespace FfmpegSource

/-- What the program is to work with for a stream. -/
def settingsFor (s : SourceProcessStream) : Settings where
  input := s.url
  streamName := s.streamName
  ffmpegOptions := commaSeparated (s.extraOptions.filterMap (ffmpegExtra parser))
  localGapMaxTime :=
    intOf (strtol 0 ((extraValue "local-max-gap" s.extraOptions).getD "20".toList))
  ioTimeout := strtoul ((extraValue "io-timeout" s.extraOptions).getD "10000".toList)
  nativeFrameRate := (extraValue "native-frame-rate" s.extraOptions).isSome
  sourceTcpPort := intOf (longOf s.apiTcpPort)
  queueSize := (extraValue "queue-size" s.extraOptions).elim 100 fun size => intOf (strtol 0 size)
  debugFlags := intOf (strtol 0 ((extraValue "debug-flags" s.extraOptions).getD "0".toList))
  logLevel := intOf (strtol 0 ((extraValue "log-level" s.extraOptions).getD "6".toList))
  log :=
    if s.logFile.getD [] ≠ [] then
      some ⟨s.logFile.getD [], intOf (longOf s.logSize), intOf (longOf s.logRotate)⟩
    else none

theorem fresh : Fresh parser := ⟨by decide, rfl, rfl⟩

/-- The program understands what the controller writes itself, and misses nothing. -/
theorem complete_own (s : SourceProcessStream) :
    Complete parser SourceProcessStream.ownNames s.own where
  fits := by
    simp only [SourceProcessStream.own, logOptions, List.cons_append, List.nil_append,
      List.forall_mem_cons]
    exact ⟨⟨_, rfl, rfl, fun _ _ => rfl⟩, ⟨_, rfl, rfl, takes_number rfl _⟩,
      ⟨_, rfl, rfl, fun _ _ => rfl⟩, ⟨_, rfl, rfl, takes_given rfl _⟩, ⟨_, rfl, rfl, takes_given rfl _⟩,
      ⟨_, rfl, rfl, fun _ _ => rfl⟩, List.forall_mem_nil _⟩
  named := rfl
  nodup := by decide
  required e he hrequired := by
    have hneeded : ∀ e ∈ parser.optionRegMap, e.flags.required = true →
        e.optName = "stream-name".toList ∨ e.optName = "url".toList := by decide
    rcases hneeded e he hrequired with hname | hurl
    · exact ⟨_, List.mem_cons_self, hname, rfl⟩
    · exact ⟨_, List.mem_append_right _ (List.mem_singleton_self _), hurl, rfl⟩

section Reads

variable {s : SourceProcessStream} {q : ArgParser}

theorem check_reads (h : Reads parser q SourceProcessStream.ownNames s.own s.extraOptions) :
    check q = none := by
  have hown := h.own
  simp only [SourceProcessStream.own, logOptions, List.cons_append, List.nil_append,
    List.forall_mem_cons] at hown
  unfold check ArgParser.checkOption
  simp only [hown]
  split_ifs <;> simp_all

theorem settings_reads (h : Reads parser q SourceProcessStream.ownNames s.own s.extraOptions) :
    settings q = settingsFor s := by
  have hqueue : (if (extraValue "queue-size" s.extraOptions).isSome = true then
        intOf (strtol 0 ((extraValue "queue-size" s.extraOptions).getD "60".toList)) else 100) =
      (extraValue "queue-size" s.extraOptions).elim 100 fun size => intOf (strtol 0 size) := by
    cases extraValue "queue-size" s.extraOptions with
    | none => rfl
    | some size => rfl
  have hown := h.own
  simp only [SourceProcessStream.own, logOptions, List.cons_append, List.nil_append,
    List.forall_mem_cons] at hown
  obtain ⟨hname, hport, hfile, hsize, hrotate, hurl, -⟩ := hown
  unfold settings settingsFor ArgParser.optionValue ArgParser.checkOption
  rw [logOf_given hfile hsize hrotate, h.ffmpegOptions, hurl, hname, hport,
    h.lookup "local-max-gap" (by decide), h.lookup "io-timeout" (by decide),
    h.lookup "native-frame-rate" (by decide), h.lookup "queue-size" (by decide),
    h.lookup "debug-flags" (by decide), h.lookup "log-level" (by decide), hqueue,
    Option.getD_some, Option.getD_some, Option.getD_some, strtol_decimal]
  rfl

end Reads

/-- **The program works with what the stream was created for**, where it has its logger. -/
theorem main_runs_stream (opens : Text → Bool) {s : SourceProcessStream}
    (hextra : ∀ o ∈ s.extraOptions, Understood parser SourceProcessStream.ownNames o) :
    main opens s.generateCmdArgs =
      (loggerError opens s.logFile s.logSize s.logRotate).elim (.run (settingsFor s)) .noLogger := by
  obtain ⟨q, hreads, hparse⟩ := parseArgv_commandLine fresh (complete_own s) hextra
    (by decide) check (programName s.executable s.sourceType)
  unfold main
  rw [SourceProcessStream.args_own, hparse, check_reads hreads]
  show withLogger opens (settings q).log (settings q).logLevel (settings q) = _
  rw [settings_reads hreads]
  exact withLogger_given ..

/-- A file that is played as a camera would send it. -/
def file : SourceProcessStream where
  executable := some "ffmpeg_demuxer_source".toList
  sourceType := "ffmpeg_source".toList
  streamName := "camera".toList
  url := "/video/camera.mp4".toList
  apiTcpPort := 6001
  extraOptions :=
    [("native_frame_rate".toList, none), ("io_timeout".toList, some "5000".toList),
      ("ffmpeg_rtsp_transport".toList, some "tcp".toList)]

theorem main_runs_file : main (fun _ => true) file.generateCmdArgs = .run
    { input := "/video/camera.mp4".toList
      streamName := "camera".toList
      ffmpegOptions := "rtsp-transport=tcp".toList
      localGapMaxTime := 20
      ioTimeout := 5000
      nativeFrameRate := true
      sourceTcpPort := 6001
      queueSize := 100
      debugFlags := 0
      logLevel := 6
      log := none } :=
  (main_runs_stream (fun _ => true) (by decide)).trans (by decide)

end FfmpegSource

end Cmd

end StreamSwitch
