import StreamSwitch.Cmd.ArgParser
import StreamSwitch.Logger.Rotate

/-!
# Command lines of the programs

The controller starts a program for each of its streams and senders, with options of its own and the
extra options that it was given. `parseArgv_commandLine` says what `ParseArgv` makes of them.
-/

namespace StreamSwitch

namespace Cmd

open Getopt (Text Item)

/-! ## The controller -/

/-- An item of `extra_options`, with the text of its value. -/
abbrev ExtraOption := Text × Option Text

/-- `k.replace("_", "-")`. -/
def dashed (k : Text) : Text := k.map fun c => if c = '_' then '-' else c

def extraArg (o : ExtraOption) : Text :=
  match o.2 with
  | none => "--".toList ++ dashed o.1
  | some v => "--".toList ++ dashed o.1 ++ ['='] ++ v

/-- The name of the program: the type stands in for an executable that is not there. -/
def programName (executable : Option Text) (type : Text) : Text :=
  match executable with
  | none => type
  | some name => if name = [] then type else name

def logArgs (logFile : Option Text) (logSize logRotate : Int) : List Text :=
  if logFile.getD [] ≠ [] then
    ["-l".toList, logFile.getD [], "-L".toList, decimal logSize, "-r".toList, decimal logRotate]
  else []

/-! ## The program -/

/-- How a program begins: it exits at once, or works with its settings. -/
inductive Start (α : Type)
  | help
  | version
  | failed (message : Text)
  /-- "Init Logger failed, exit", with the code of `RotateLogger::Init`. -/
  | noLogger (ret : ErrorCode)
  | run (settings : α)
deriving DecidableEq, Repr

def Start.bind {α β : Type} (f : α → Start β) : Start α → Start β
  | .help => .help
  | .version => .version
  | .failed message => .failed message
  | .noLogger ret => .noLogger ret
  | .run settings => f settings

/-- A log file, with its size and number of rotations. -/
structure Log where
  file : Text
  size : Int
  rotate : Int
deriving DecidableEq, Repr

/-- `strtoul` in base 0. -/
def strtoul (s : Text) : Nat :=
  let signed := sign (s.dropWhile isSpace)
  let based := radix signed.2
  let n := leadingNumber based.1 based.2
  if n ≥ 2 ^ 64 then 2 ^ 64 - 1 else if signed.1 then (2 ^ 64 - n) % 2 ^ 64 else n

/-- `ParseArgv` of a program, with its own checks. -/
def parseArgv (p : ArgParser) (check : ArgParser → Option String) (argv : List Text) :
    Start ArgParser :=
  match p.parse argv with
  | .error err => .failed ("Option Parsing Error:".toList ++ err ++ "\n".toList)
  | .ok p =>
    if p.checkOption "help" then .help
    else if p.checkOption "version" then .version
    else
      match check p with
      | some message => .failed message.toList
      | none => .run p

/-- The log that `main` sets up. -/
def logOf (p : ArgParser) : Option Log :=
  if p.checkOption "log-file" then
    some ⟨p.optionValue "log-file" "", intOf (strtol 0 (p.optionValue "log-size" "0")),
      intOf (strtol 0 (p.optionValue "log-rotate" "0"))⟩
  else none

/-- `InitGlobalLogger`, where `opens` says which files the system lets a program open. -/
def initGlobalLogger (opens : Text → Bool) (log : Log) (logLevel : Int) : ErrorCode :=
  match (RotateLogger.init { logger := .constructed 0 } "stsw_proxy_source".toList log.file log.size
    log.rotate logLevel).1 with
  | .ok => if opens log.file then .ok else .system
  | code => code

/-- `main` goes on where the logger that it is to set up is there. -/
def withLogger {α : Type} (opens : Text → Bool) (log : Option Log) (logLevel : Int) (settings : α) :
    Start α :=
  match log with
  | none => .run settings
  | some log =>
    match initGlobalLogger opens log logLevel with
    | .ok => .run settings
    | ret => .noLogger ret

/-! ## What is meant by extra options -/

def extraItem (o : ExtraOption) : Item := .long (dashed o.1) o.2

theorem args_extraItem (o : ExtraOption) : (extraItem o).args = [extraArg o] := by
  unfold extraItem extraArg
  cases o.2 with
  | none => exact congrArg (fun t => ['-' :: '-' :: t]) (List.append_nil _)
  | some v => simp [Item.args, Item.element]

theorem args_extras (os : List ExtraOption) :
    (os.map extraItem).flatMap Item.args = os.map extraArg := by
  induction os with
  | nil => rfl
  | cons o os ih => rw [List.map_cons, List.flatMap_cons, ih, args_extraItem, List.map_cons]; rfl

/-- The value of an extra option; the last one counts if there are several of a name. -/
def extraValue (name : String) : List ExtraOption → Option Text
  | [] => none
  | o :: os =>
    (extraValue name os).or (if dashed o.1 = name.toList then some (o.2.getD []) else none)

/-- An extra option for the FFmpeg library. -/
def ffmpegExtra (p : ArgParser) (o : ExtraOption) : Option Text :=
  if "ffmpeg-".toList.isPrefixOf (dashed o.1) && (p.named (dashed o.1)).isNone then
    some ((dashed o.1).drop "ffmpeg-".length ++ '=' :: o.2.getD ['1'])
  else none

/-- An extra option that the program understands, and none of those that the controller gives. -/
structure Understood (p : ArgParser) (own : List String) (o : ExtraOption) : Prop where
  meant : (p.meaning (extraItem o)).isSome = true
  other : ∀ name ∈ own, dashed o.1 ≠ name.toList

instance (p : ArgParser) (own : List String) (o : ExtraOption) : Decidable (Understood p own o) :=
  decidable_of_iff ((p.meaning (extraItem o)).isSome = true ∧ ∀ name ∈ own, dashed o.1 ≠ name.toList)
    ⟨fun h => ⟨h.1, h.2⟩, fun h => ⟨h.meant, h.other⟩⟩

theorem extraValue_none {os : List ExtraOption} {name : String}
    (h : ∀ o ∈ os, dashed o.1 ≠ name.toList) : extraValue name os = none := by
  induction os with
  | nil => rfl
  | cons o os ih =>
    obtain ⟨ho, hos⟩ := List.forall_mem_cons.1 h
    rw [extraValue, ih hos, if_neg ho]
    rfl

section Extras

variable {p : ArgParser}

/-- An extra option and what is meant by it. -/
theorem meaning_extraItem {o : ExtraOption} {m : Meaning} (h : p.meaning (extraItem o) = some m) :
    ((p.named (dashed o.1)).isSome = true ∧ ffmpegExtra p o = none ∧
        m = .set (dashed o.1) (o.2.getD [])) ∨
      (p.named (dashed o.1) = none ∧ ∃ text, text ≠ [] ∧ ffmpegExtra p o = some text ∧
        m = .ffmpeg text) := by
  obtain ⟨-, ⟨e, hnamed, -, rfl⟩ | ⟨hnamed, -, hbegins, -, rfl⟩⟩ := ArgParser.meaning_long h
  · have hname : e.optName = dashed o.1 := by simpa using List.find?_some hnamed
    refine .inl ⟨by rw [hnamed]; rfl, ?_, by rw [hname]⟩
    rw [ffmpegExtra, hnamed, Option.isNone_some, Bool.and_false, if_neg Bool.false_ne_true]
  · refine .inr ⟨hnamed, _, ?_, ?_, rfl⟩
    · simp
    · rw [ffmpegExtra, hnamed, hbegins]
      rfl

theorem exists_meanings {own : List String} {os : List ExtraOption}
    (h : ∀ o ∈ os, Understood p own o) :
    ∃ ms : List Meaning, (os.map extraItem).map p.meaning = ms.map some := by
  induction os with
  | nil => exact ⟨[], rfl⟩
  | cons o os ih =>
    obtain ⟨ho, hos⟩ := List.forall_mem_cons.1 h
    obtain ⟨m, hm⟩ := Option.isSome_iff_exists.1 ho.meant
    obtain ⟨ms, hms⟩ := ih hos
    exact ⟨m :: ms, by rw [List.map_cons, List.map_cons, hm, hms, List.map_cons]⟩

theorem lastSet_extras {os : List ExtraOption} {ms : List Meaning}
    (h : (os.map extraItem).map p.meaning = ms.map some) (name : String) :
    ArgParser.lastSet name.toList ms =
      if (p.named name.toList).isSome then extraValue name os else none := by
  induction os generalizing ms with
  | nil =>
    cases ms with
    | nil => exact (ite_self none).symm
    | cons m ms => cases h
  | cons o os ih =>
    cases ms with
    | nil => cases h
    | cons m ms =>
      obtain ⟨hm, hms⟩ := List.cons.inj h
      rw [extraValue]
      rcases meaning_extraItem hm with ⟨hnamed, -, rfl⟩ | ⟨hnamed, text, -, -, rfl⟩
      · rw [ArgParser.lastSet, ih hms]
        by_cases hname : dashed o.1 = name.toList
        · rw [hname] at hnamed
          rw [if_pos hnamed, if_pos hnamed, if_pos hname]
        · rw [if_neg hname, Option.or_none, Option.or_none]
      · rw [ArgParser.lastSet, ih hms]
        by_cases hname : dashed o.1 = name.toList
        · rw [hname] at hnamed
          rw [hnamed]
          rfl
        · rw [if_neg hname, Option.or_none]

theorem ffmpeg_extras {os : List ExtraOption} {ms : List Meaning}
    (h : (os.map extraItem).map p.meaning = ms.map some) :
    ms.filterMap Meaning.ffmpeg? = os.filterMap (ffmpegExtra p) ∧
      ∀ text ∈ ms.filterMap Meaning.ffmpeg?, text ≠ [] := by
  induction os generalizing ms with
  | nil =>
    cases ms with
    | nil => exact ⟨rfl, fun _ hmem => absurd hmem List.not_mem_nil⟩
    | cons m ms => cases h
  | cons o os ih =>
    cases ms with
    | nil => cases h
    | cons m ms =>
      obtain ⟨hm, hms⟩ := List.cons.inj h
      obtain ⟨heq, hne⟩ := ih hms
      rcases meaning_extraItem hm with ⟨-, hextra, rfl⟩ | ⟨-, text, htext, hextra, rfl⟩
      · exact ⟨heq.trans (List.filterMap_cons_none hextra).symm, hne⟩
      · refine ⟨?_, List.forall_mem_cons.2 ⟨htext, hne⟩⟩
        rw [List.filterMap_cons_some hextra, ← heq]
        rfl

end Extras

/-! ## What is meant by the options of the controller -/

/-- An option that the controller gives itself, where it has a value. -/
structure OwnOption where
  short : Option Char := none
  name : String
  value : Option Text

namespace OwnOption

/-- The option as it is written. -/
def item (o : OwnOption) (value : Text) : Item :=
  match o.short with
  | some c => .short c value
  | none => .apart o.name.toList value

/-- The entry of the parser that it is read by. -/
def entry (p : ArgParser) (o : OwnOption) : Option OptionsEntry :=
  match o.short with
  | some c => if c.isAlpha then p.entryOf c.toNat else none
  | none => if '=' ∉ o.name.toList ∧ o.name.toList ≠ [] then p.named o.name.toList else none

/-- The parser takes the option by its name, with any value that it is given. -/
def Fits (p : ArgParser) (o : OwnOption) : Prop :=
  ∃ e, o.entry p = some e ∧ e.optName = o.name.toList ∧ ∀ v ∈ o.value, e.takes v = true

/-- The options in their order, with what is meant by them. -/
def items (os : List OwnOption) : List (Item × Meaning) :=
  os.filterMap fun o => o.value.map fun v => (o.item v, .set o.name.toList v)

end OwnOption

/-- What `logArgs` writes. -/
def logOptions (logFile : Option Text) (logSize logRotate : Int) : List OwnOption :=
  [⟨some 'l', "log-file", if logFile.getD [] ≠ [] then some (logFile.getD []) else none⟩,
    ⟨some 'L', "log-size", if logFile.getD [] ≠ [] then some (decimal logSize) else none⟩,
    ⟨some 'r', "log-rotate", if logFile.getD [] ≠ [] then some (decimal logRotate) else none⟩]

section Own

variable {p : ArgParser} {os : List OwnOption} {o : OwnOption}

theorem takes_decimal {e : OptionsEntry} (h : e.flags = { withArg := true, long := true })
    (i : Int) : e.takes (decimal i) = true := by
  rw [OptionsEntry.takes, h, isLong_decimal]
  rfl

theorem takes_number {e : OptionsEntry} (h : e.flags = { withArg := true, long := true }) (i : Int) :
    ∀ v ∈ some (decimal i), e.takes v = true := by
  rintro _ ⟨⟩
  exact takes_decimal h i

/-- A number that is there under a condition. -/
theorem takes_given {e : OptionsEntry} {c : Prop} [Decidable c]
    (h : e.flags = { withArg := true, long := true }) (i : Int) :
    ∀ v ∈ if c then some (decimal i) else none, e.takes v = true := by
  split_ifs
  · exact takes_number h i
  · rintro _ ⟨⟩

theorem OwnOption.Fits.apart {name : String} {value : Option Text} {e : OptionsEntry}
    (hplain : '=' ∉ name.toList ∧ name.toList ≠ []) (hentry : p.named name.toList = some e)
    (hname : e.optName = name.toList) (htakes : ∀ v ∈ value, e.takes v = true) :
    OwnOption.Fits p ⟨none, name, value⟩ :=
  ⟨e, (if_pos hplain).trans hentry, hname, htakes⟩

theorem OwnOption.Fits.meaning (h : o.Fits p) {v : Text} (hv : v ∈ o.value) :
    p.meaning (o.item v) = some (.set o.name.toList v) := by
  obtain ⟨e, hentry, hname, htakes⟩ := h
  unfold OwnOption.entry at hentry
  unfold OwnOption.item
  split at hentry
  · split_ifs at hentry with hc
    rw [ArgParser.meaning, if_pos hc, hentry, Option.bind_some, if_pos (htakes v hv), hname]
  · split_ifs at hentry with hplain
    rw [ArgParser.meaning, if_pos hplain, hentry, Option.bind_some, if_pos (htakes v hv), hname]

theorem mem_items {x : Item × Meaning} (h : x ∈ OwnOption.items os) :
    ∃ o ∈ os, ∃ v ∈ o.value, x = (o.item v, .set o.name.toList v) := by
  obtain ⟨o, ho, hx⟩ := List.mem_filterMap.1 h
  obtain ⟨v, hv, rfl⟩ := Option.map_eq_some_iff.1 hx
  exact ⟨o, ho, v, hv, rfl⟩

theorem meaning_items (h : ∀ o ∈ os, o.Fits p) :
    ((OwnOption.items os).map Prod.fst).map p.meaning =
      ((OwnOption.items os).map Prod.snd).map some := by
  rw [List.map_map, List.map_map]
  refine List.map_congr_left fun x hx => ?_
  obtain ⟨o, ho, v, hv, rfl⟩ := mem_items hx
  exact (h o ho).meaning hv

/-- No option of the controller has another name. -/
theorem lastSet_other {name : String} (h : name ∉ os.map (·.name)) :
    ArgParser.lastSet name.toList ((OwnOption.items os).map Prod.snd) = none := by
  refine ArgParser.lastSet_none fun m hm value heq => ?_
  obtain ⟨x, hx, rfl⟩ := List.mem_map.1 hm
  obtain ⟨o, ho, v, -, rfl⟩ := mem_items hx
  have hname := String.toList_inj.1 (Meaning.set.inj heq).1
  exact h (hname ▸ List.mem_map_of_mem ho)

theorem lastSet_items (hnodup : (os.map (·.name)).Nodup) (ho : o ∈ os) :
    ArgParser.lastSet o.name.toList ((OwnOption.items os).map Prod.snd) = o.value := by
  induction os with
  | nil => cases ho
  | cons first os ih =>
    rw [List.map_cons, List.nodup_cons] at hnodup
    have hitems : (OwnOption.items (first :: os)).map Prod.snd =
        (first.value.map (.set first.name.toList)).toList ++ (OwnOption.items os).map Prod.snd := by
      unfold OwnOption.items
      rw [List.filterMap_cons]
      cases first.value <;> rfl
    rw [hitems, ArgParser.lastSet_append]
    rcases List.mem_cons.1 ho with rfl | ho
    · rw [lastSet_other hnodup.1, Option.none_or]
      cases hvalue : o.value with
      | none => rfl
      | some v => simp [ArgParser.lastSet]
    · have hne : first.name.toList ≠ o.name.toList := fun heq =>
        hnodup.1 (String.toList_inj.1 heq ▸ List.mem_map_of_mem ho)
      have hnone : ArgParser.lastSet o.name.toList (first.value.map (.set first.name.toList)).toList =
          none := by
        cases first.value with
        | none => rfl
        | some v => simp [ArgParser.lastSet, hne]
      rw [ih hnodup.2 ho, hnone, Option.or_none]

/-- None of them is for the library. -/
theorem ffmpeg_items (os : List OwnOption) :
    ((OwnOption.items os).map Prod.snd).filterMap Meaning.ffmpeg? = [] := by
  rw [List.filterMap_eq_nil_iff]
  intro m hm
  obtain ⟨x, hx, rfl⟩ := List.mem_map.1 hm
  obtain ⟨o, -, v, -, rfl⟩ := mem_items hx
  rfl

end Own

/-! ## Both together -/

/-- A parser that has read nothing. -/
structure Fresh (p : ArgParser) : Prop where
  keyed : p.Keyed
  options : p.options = []
  ffmpegOptions : p.ffmpegOptions.getD [] = []

/-- The options that a parser has after those of the controller and the extra ones. -/
structure Reads (p q : ArgParser) (names : List String) (os : List OwnOption)
    (extras : List ExtraOption) : Prop where
  own : ∀ o ∈ os, q.options.lookup o.name.toList = o.value
  extra : ∀ name ∉ names, q.options.lookup name.toList =
    if (p.named name.toList).isSome then extraValue name extras else none
  ffmpegOptions : q.ffmpegOptions =
    p.ffmpegOptions.map fun _ => commaSeparated (extras.filterMap (ffmpegExtra p))
  optionRegMap : q.optionRegMap = p.optionRegMap

/-- The options of the controller, under these names, for a parser: each has an entry, and none that
is required is missing. -/
structure Complete (p : ArgParser) (names : List String) (os : List OwnOption) : Prop where
  fits : ∀ o ∈ os, o.Fits p
  named : os.map (·.name) = names
  nodup : names.Nodup
  required : ∀ e ∈ p.optionRegMap, e.flags.required = true →
    ∃ o ∈ os, e.optName = o.name.toList ∧ o.value.isSome = true

section CommandLine

variable {p : ArgParser} {names : List String} {os : List OwnOption} {extras : List ExtraOption}

theorem reads_given (hfresh : Fresh p) (hown : Complete p names os)
    (hextra : ∀ o ∈ extras, Understood p names o) {ms : List Meaning}
    (hms : (extras.map extraItem).map p.meaning = ms.map some) :
    Reads p (p.given ((OwnOption.items os).map Prod.snd ++ ms)) names os extras := by
  obtain ⟨-, rfl, hnodup, -⟩ := hown
  have hlookup : ∀ name : String,
      (p.given ((OwnOption.items os).map Prod.snd ++ ms)).options.lookup name.toList =
        (if (p.named name.toList).isSome then extraValue name extras else none).or
          (ArgParser.lastSet name.toList ((OwnOption.items os).map Prod.snd)) := fun name => by
    rw [ArgParser.lookup_given, hfresh.options, List.lookup_nil, Option.or_none,
      ArgParser.lastSet_append, lastSet_extras hms]
  refine ⟨fun o ho => ?_, fun name hname => ?_, ?_, ArgParser.given_optionRegMap ..⟩
  · have hnone : extraValue o.name extras = none := extraValue_none fun x hx =>
      (hextra x hx).other o.name (List.mem_map_of_mem ho)
    rw [hlookup, hnone, ite_self, Option.none_or, lastSet_items hnodup ho]
  · rw [hlookup, lastSet_other hname, Option.or_none]
  · obtain ⟨htexts, hne⟩ := ffmpeg_extras hms
    have hall : ((OwnOption.items os).map Prod.snd ++ ms).filterMap Meaning.ffmpeg? =
        extras.filterMap (ffmpegExtra p) := by
      rw [List.filterMap_append, ffmpeg_items, htexts, List.nil_append]
    cases hkept : p.ffmpegOptions with
    | none => exact ArgParser.ffmpegOptions_none hkept _
    | some kept =>
      have hempty : p.ffmpegOptions = some [] := by
        rw [hkept, ← hfresh.ffmpegOptions, hkept, Option.getD_some]
      rw [ArgParser.ffmpegOptions_given hempty (hall.trans htexts.symm ▸ hne), hall, Option.map_some]

/-- No option is missing if the controller gives those that are required. -/
theorem Reads.missing {q : ArgParser} (h : Reads p q names os extras) (hown : Complete p names os) :
    q.missing = none := by
  unfold ArgParser.missing
  rw [h.optionRegMap, List.find?_eq_none]
  intro e he
  rw [Bool.and_eq_true]
  rintro ⟨hneeded, hnone⟩
  obtain ⟨o, ho, heq, hsome⟩ := hown.required e he hneeded
  rw [heq, h.own o ho, Option.isNone_iff_eq_none] at hnone
  rw [hnone] at hsome
  cases hsome

theorem Reads.lookup {q : ArgParser} (h : Reads p q names os extras) (name : String)
    (hname : name ∉ names ∧ (p.named name.toList).isSome = true) :
    q.options.lookup name.toList = extraValue name extras := by
  rw [h.extra name hname.1, if_pos hname.2]

/-- The options that come before all others are not meant. -/
theorem meaning_prefer {name : Text} (h : (p.named name).any (·.flags.prefer) = true)
    (arg : Option Text) : p.meaning (.long name arg) = none := by
  obtain ⟨e, hnamed, hprefer⟩ : ∃ e, p.named name = some e ∧ e.flags.prefer = true := by
    cases hnamed : p.named name with
    | none =>
      rw [hnamed] at h
      cases h
    | some e =>
      rw [hnamed] at h
      exact ⟨e, rfl, h⟩
  have hnone : ¬arg.elim e.bare e.takes = true := by
    cases arg <;> simp [OptionsEntry.bare, OptionsEntry.takes, hprefer]
  rw [ArgParser.meaning, hnamed]
  dsimp only
  rw [if_neg hnone, ite_self]

theorem Reads.not_prefer {q : ArgParser} (h : Reads p q names os extras)
    (hextra : ∀ o ∈ extras, Understood p names o) {name : String}
    (hname : name ∉ names)
    (hprefer : (p.named name.toList).any (·.flags.prefer) = true) : q.checkOption name = false := by
  have hnone : extraValue name extras = none := extraValue_none fun o ho heq => by
    have hmeant := (hextra o ho).meant
    unfold extraItem at hmeant
    rw [heq, meaning_prefer hprefer] at hmeant
    cases hmeant
  unfold ArgParser.checkOption
  rw [h.extra name hname, hnone, ite_self]
  rfl

/-- **The options are read**, and then the program makes its checks. -/
theorem parseArgv_commandLine (hfresh : Fresh p) (hown : Complete p names os)
    (hextra : ∀ o ∈ extras, Understood p names o)
    (hprefer : ∀ name ∈ ["help", "version"],
      name ∉ names ∧ (p.named name.toList).any (·.flags.prefer) = true)
    (check : ArgParser → Option String) (program : Text) :
    ∃ q, Reads p q names os extras ∧
      parseArgv p check (program ::
          ((OwnOption.items os).map Prod.fst ++ extras.map extraItem).flatMap Item.args) =
        (check q).elim (.run q) fun message => .failed message.toList := by
  obtain ⟨ms, hms⟩ := exists_meanings hextra
  have hmeant : ((OwnOption.items os).map Prod.fst ++ extras.map extraItem).map p.meaning =
      ((OwnOption.items os).map Prod.snd ++ ms).map some := by
    rw [List.map_append, hms, List.map_append, meaning_items hown.fits]
  have hreads := reads_given hfresh hown hextra hms
  obtain ⟨hhelp, hhelp'⟩ := hprefer "help" (by decide)
  obtain ⟨hversion, hversion'⟩ := hprefer "version" (by decide)
  refine ⟨_, hreads, ?_⟩
  unfold parseArgv
  rw [ArgParser.parse_items hfresh.keyed hmeant, hreads.missing hown]
  dsimp only [Option.elim_none]
  rw [hreads.not_prefer hextra hhelp hhelp', hreads.not_prefer hextra hversion hversion',
    if_neg Bool.false_ne_true, if_neg Bool.false_ne_true]
  cases check (p.given ((OwnOption.items os).map Prod.snd ++ ms)) with
  | none => rfl
  | some message => rfl

end CommandLine

/-! ## Values and the logger -/

/-- An option that is there where its value is not empty. -/
theorem getD_given (text : Text) :
    (if text ≠ [] then some text else none).getD "".toList = text := by
  split_ifs with htext
  · rfl
  · exact (not_not.1 htext).symm

/-- A number that is there under a condition. -/
theorem strtol_given {c : Prop} [Decidable c] (i : Int) (defaultValue : Text) :
    strtol 0 ((if c then some (decimal i) else none).getD defaultValue) =
      if c then longOf i else strtol 0 defaultValue := by
  split_ifs
  · rw [Option.getD_some, strtol_decimal]
  · rfl

theorem logOf_given {q : ArgParser} {logFile : Option Text} {logSize logRotate : Int}
    (hfile : q.options.lookup "log-file".toList =
      if logFile.getD [] ≠ [] then some (logFile.getD []) else none)
    (hsize : q.options.lookup "log-size".toList =
      if logFile.getD [] ≠ [] then some (decimal logSize) else none)
    (hrotate : q.options.lookup "log-rotate".toList =
      if logFile.getD [] ≠ [] then some (decimal logRotate) else none) :
    logOf q =
      if logFile.getD [] ≠ [] then
        some ⟨logFile.getD [], intOf (longOf logSize), intOf (longOf logRotate)⟩
      else none := by
  unfold logOf ArgParser.checkOption ArgParser.optionValue
  rw [hfile, hsize, hrotate]
  rw [strtol_given, strtol_given]
  by_cases hlog : logFile.getD [] ≠ []
  · simp only [if_pos hlog, Option.isSome_some, if_true, Option.getD_some]
  · simp only [if_neg hlog]
    rfl

/-- Why the logger that the controller asks for cannot be set up. -/
def loggerError (opens : Text → Bool) (logFile : Option Text) (logSize logRotate : Int) :
    Option ErrorCode :=
  if logFile.getD [] ≠ [] then
    if intOf (longOf logSize) ≤ 0 ∨ intOf (longOf logRotate) < 0 then some .param
    else if opens (logFile.getD []) then none else some .system
  else none

theorem withLogger_given {α : Type} (opens : Text → Bool) (logFile : Option Text)
    (logSize logRotate logLevel : Int) (settings : α) :
    withLogger opens (if logFile.getD [] ≠ [] then
        some ⟨logFile.getD [], intOf (longOf logSize), intOf (longOf logRotate)⟩ else none)
        logLevel settings =
      (loggerError opens logFile logSize logRotate).elim (.run settings) .noLogger := by
  unfold loggerError
  by_cases hlog : logFile.getD [] ≠ []
  · rw [if_pos hlog, if_pos hlog]
    unfold withLogger initGlobalLogger RotateLogger.init
    by_cases hparam : intOf (longOf logSize) ≤ 0 ∨ intOf (longOf logRotate) < 0
    · rw [if_pos hparam]
      simp only [if_pos hparam]
      rfl
    · rw [if_neg hparam]
      simp only [if_neg hparam]
      cases opens (logFile.getD []) <;> rfl
  · rw [if_neg hlog, if_neg hlog]
    rfl

end Cmd

end StreamSwitch
